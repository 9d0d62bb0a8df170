import Mathlib.Logic.Relation
import Rehearsal.Browser.Page
import Rehearsal.Proofs.Within

/-!
# What can happen to a stage during a session

Between the start of a session and its end a stage changes by deeds only: an entry
of the journal that is no service call, an effect of a page's script, time that
passes, a file, the limits of a page, or a record of the ledger. An invariant of
sessions is checked once for each deed.
-/

namespace Rehearsal

variable {τ : Type}

/-- Calls that start or end a browser. -/
def Call.isService : Call τ → Bool
  | .service _ => true
  | _ => false

/-- Answers to dialogs, which the engine gives on its own. -/
def Call.isAnswer : Call τ → Bool
  | .dialogAccept .. | .dialogDismiss .. => true
  | _ => false

/-- Pauses, which let time pass and do nothing else. -/
def Call.isPause : Call τ → Bool
  | .sleep _ => true
  | _ => false

variable [Clock τ]

/-- One change. `limit` is the session's limit for pages, and `kept` the records that
may be put down. -/
inductive Deed (limit : Int) (kept : Record → Prop) : Stage τ → Stage τ → Prop
  | note (s : Stage τ) (c : Call τ) (h : c.isService = false) : Deed limit kept s (s.note c)
  | perform (s : Stage τ) (id : Nat) (e : Effect τ) : Deed limit kept s (s.perform id e).2
  | pass (s : Stage τ) (span : τ) :
      Deed limit kept s { s with now := Clock.add s.now span }
  | meanwhile (s : Stage τ) (rest : List (Nat × Step τ)) :
      Deed limit kept s { s with meanwhile := rest }
  | answers (s : Stage τ) (rest : List Answer) : Deed limit kept s { s with answers := rest }
  | script (s : Stage τ) (id : Nat) (script : List (String × List (Step τ))) :
      Deed limit kept s (s.updatePage id fun p => { p with script })
  | element (s : Stage τ) (id i : Nat) (f : Element (Effect τ) → Element (Effect τ)) :
      Deed limit kept s (s.updatePage id fun p => { p with elements := p.elements.modify i f })
  | arrive (s : Stage τ) (id : Nat) (url : Value) :
      Deed limit kept s (s.updatePage id (Browser.arrive url))
  | load (s : Stage τ) (id : Nat) (url : Value) :
      Deed limit kept s (Browser.loadMarkup s id url)
  | limits (s : Stage τ) (id : Nat) : Deed limit kept s (s.configureTimeouts id limit)
  | files (s : Stage τ) (files : Files) : Deed limit kept s { s with files }
  | record (s : Stage τ) (r : Record) (h : kept r) :
      Deed limit kept s { s with ledger := r :: s.ledger }

/-- Any number of changes. -/
abbrev Deeds (limit : Int) (kept : Record → Prop) : Stage τ → Stage τ → Prop :=
  Relation.ReflTransGen (Deed limit kept)

/-- A relation that holds across whatever calls on pages do to a stage, short of writing files. -/
class Stage.Admits (R : Stage τ → Stage τ → Prop) : Prop
    extends Std.Refl R, IsTrans (Stage τ) R where
  note (s : Stage τ) (c : Call τ) (h : c.isService = false) (plain : c.isAnswer = false) :
    R s (s.note c)
  perform (s : Stage τ) (id : Nat) (e : Effect τ) : R s (s.perform id e).2
  pass (s : Stage τ) (span : τ) : R s { s with now := Clock.add s.now span }
  meanwhile (s : Stage τ) (rest : List (Nat × Step τ)) : R s { s with meanwhile := rest }
  answers (s : Stage τ) (rest : List Answer) : R s { s with answers := rest }
  script (s : Stage τ) (id : Nat) (script : List (String × List (Step τ))) :
    R s (s.updatePage id fun p => { p with script })
  element (s : Stage τ) (id i : Nat) (f : Element (Effect τ) → Element (Effect τ)) :
    R s (s.updatePage id fun p => { p with elements := p.elements.modify i f })
  arrive (s : Stage τ) (id : Nat) (url : Value) : R s (s.updatePage id (Browser.arrive url))
  load (s : Stage τ) (id : Nat) (url : Value) : R s (Browser.loadMarkup s id url)

/-- What relates more stages admits no less. -/
lemma Stage.Admits.mono {Q R : Stage τ → Stage τ → Prop} [Stage.Admits Q] [Std.Refl R]
    [IsTrans (Stage τ) R] (h : ∀ s t, Q s t → R s t) : Stage.Admits R where
  note s c hc plain := h _ _ (note s c hc plain)
  perform s id e := h _ _ (perform s id e)
  pass s span := h _ _ (pass s span)
  meanwhile s rest := h _ _ (meanwhile s rest)
  answers s rest := h _ _ (answers s rest)
  script s id steps := h _ _ (script s id steps)
  element s id i f := h _ _ (element s id i f)
  arrive s id url := h _ _ (arrive s id url)
  load s id url := h _ _ (load s id url)

/-- A relation that holds also across setting the limits of a page. -/
class Stage.AdmitsLimit (limit : Int) (R : Stage τ → Stage τ → Prop) : Prop where
  limits (s : Stage τ) (id : Nat) : R s (s.configureTimeouts id limit)

/-- A relation that holds also across any change of the files. -/
class Stage.AdmitsFiles (R : Stage τ → Stage τ → Prop) : Prop where
  files (s : Stage τ) (files : Files) : R s { s with files }

instance (limit : Int) (kept : Record → Prop) : Stage.Admits (@Deeds τ _ limit kept) where
  refl _ := .refl
  trans _ _ _ := .trans
  note s c h _ := .single (.note s c h)
  perform s id e := .single (.perform s id e)
  pass s span := .single (.pass s span)
  meanwhile s rest := .single (.meanwhile s rest)
  answers s rest := .single (.answers s rest)
  script s id script := .single (.script s id script)
  element s id i f := .single (.element s id i f)
  arrive s id url := .single (.arrive s id url)
  load s id url := .single (.load s id url)

instance (limit : Int) (kept : Record → Prop) :
    Stage.AdmitsLimit limit (@Deeds τ _ limit kept) where
  limits s id := .single (.limits s id)

instance (limit : Int) (kept : Record → Prop) :
    Stage.AdmitsFiles (@Deeds τ _ limit kept) where
  files s files := .single (.files s files)

/-- No record at all. -/
abbrev noRecord (_ : Record) : Prop := False

namespace Stage

variable (s : Stage τ) (id : Nat)

/-- What an effect leaves alone: the faults of calls, the ledger, the patience and, but for
answers to dialogs, the journal. -/
structure Quiet (s t : Stage τ) : Prop where
  faults : t.faults = s.faults
  ledger : t.ledger = s.ledger
  patience : t.patience = s.patience
  journal : ∃ calls, t.journal = calls ++ s.journal ∧ ∀ c ∈ calls, c.isAnswer

instance : Std.Refl (@Quiet τ) where
  refl s := ⟨rfl, rfl, rfl, [], rfl, by simp⟩

instance : IsTrans (Stage τ) Quiet where
  trans := by
    rintro s t u ⟨hf, hl, hp, cs, hj, hc⟩ ⟨kf, kl, kp, ds, kj, hd⟩
    refine ⟨kf.trans hf, kl.trans hl, kp.trans hp, ds ++ cs, by rw [kj, hj, List.append_assoc], ?_⟩
    intro c hmem
    rcases List.mem_append.mp hmem with h | h
    · exact hd c h
    · exact hc c h

omit [Clock τ] in
lemma quiet_of_same {s t : Stage τ} (hf : t.faults = s.faults) (hl : t.ledger = s.ledger)
    (hp : t.patience = s.patience) (hj : t.journal = s.journal) : Quiet s t :=
  ⟨hf, hl, hp, [], by simp [hj], by simp⟩

lemma quiet_openPage (url : Value) (page : Page (Effect τ)) : Quiet s (s.openPage url page) := by
  unfold openPage
  dsimp only
  split <;> exact quiet_of_same rfl rfl rfl rfl

lemma quiet_answerDialog (type message : String) (fault : Option String) :
    Quiet s (s.answerDialog type message fault) := by
  refine ⟨rfl, rfl, rfl, [_], rfl, fun c hc => ?_⟩
  rw [List.mem_singleton.mp hc]
  split <;> rfl

omit [Clock τ] in
/-- The listeners of a page do together what their handler does each time. -/
lemma emit_within {R : Stage τ → Stage τ → Prop} [Std.Refl R] [IsTrans (Stage τ) R]
    (event : PageEvent) {handler : Stage τ → Stage τ} (h : ∀ t, R t (handler t)) :
    R s (s.emit id event handler) := by
  unfold emit
  split
  · exact refl s
  · next p hp =>
    generalize p.listeners.count event = n
    clear hp
    induction n generalizing s with
    | zero => exact refl s
    | succ n ih => exact IsTrans.trans _ _ _ (h s) (ih (handler s))

lemma quiet_act (e : Effect τ) : Quiet s (s.act id e).2 := by
  cases e with
  | openPage url page => exact quiet_openPage s url page
  | dialog type message fault =>
    exact emit_within s id .dialog fun t => quiet_answerDialog t type message fault
  | crash => exact emit_within s id .crash fun t => quiet_of_same rfl rfl rfl rfl
  | pageError message => exact emit_within s id .pageError fun t => quiet_of_same rfl rfl rfl rfl
  | _ => exact quiet_of_same rfl rfl rfl rfl

lemma quiet_perform (e : Effect τ) : Quiet s (s.perform id e).2 := by
  have seen : Quiet s (s.witness id e) := quiet_of_same rfl rfl rfl rfl
  exact IsTrans.trans _ _ _ seen (quiet_act (s.witness id e) id e)

lemma quiet_performAll (step : Step τ) : Quiet s (s.performAll id step).2 := by
  induction step generalizing s with
  | nil => exact refl s
  | cons e rest ih =>
    have he := quiet_perform s id e
    unfold performAll
    rcases hp : s.perform id e with ⟨_ | f, t⟩ <;> rw [hp] at he
    · exact IsTrans.trans _ _ _ he (ih t)
    · exact he

end Stage

namespace Stage.Admits

variable {R : Stage τ → Stage τ → Prop} [Stage.Admits R]

lemma performAll (s : Stage τ) (id : Nat) (step : Step τ) : R s (s.performAll id step).2 := by
  induction step generalizing s with
  | nil => exact refl s
  | cons e rest ih =>
    have he : R s (s.perform id e).2 := perform s id e
    unfold Stage.performAll
    rcases hp : s.perform id e with ⟨_ | f, t⟩ <;> rw [hp] at he
    · exact IsTrans.trans _ _ _ he (ih t)
    · exact he

lemma happen (s : Stage τ) (id : Nat) (step : Step τ) : R s (s.happen id step) := by
  unfold Stage.happen
  induction step generalizing s with
  | nil => exact refl s
  | cons e rest ih => exact IsTrans.trans _ _ _ (perform s id e) (ih _)

lemma sleep (s : Stage τ) (span : τ) : R s (s.sleep span) := by
  have passed : R s { s.note (.sleep span) with now := Clock.add s.now span } :=
    IsTrans.trans _ _ _ (note s (.sleep span) rfl rfl) (pass _ span)
  unfold Stage.sleep
  dsimp only
  split
  · exact passed
  · next id step rest _ =>
    exact IsTrans.trans _ _ _ (IsTrans.trans _ _ _ passed (meanwhile _ rest)) (happen _ id step)

end Stage.Admits

namespace Deeds

variable {limit : Int} {kept : Record → Prop} {s t : Stage τ}

lemma one (h : Deed limit kept s t) : Deeds limit kept s t := .single h

/-- Which calls fail is settled beforehand. -/
lemma faults (h : Deeds limit kept s t) : t.faults = s.faults := by
  induction h with
  | refl => rfl
  | tail _ hd ih =>
    rw [← ih]
    cases hd with
    | perform id e => exact (Stage.quiet_perform _ id e).faults
    | _ => rfl

lemma patience (h : Deeds limit kept s t) : t.patience = s.patience := by
  induction h with
  | refl => rfl
  | tail _ hd ih =>
    rw [← ih]
    cases hd with
    | perform id e => exact (Stage.quiet_perform _ id e).patience
    | _ => rfl

/-- Starting and ending a browser is left to the beginning and the end of a session. -/
lemma journal (h : Deeds limit kept s t) :
    ∃ calls, t.journal = calls ++ s.journal ∧ ∀ c ∈ calls, c.isService = false := by
  induction h with
  | refl => exact ⟨[], rfl, by simp⟩
  | tail _ hd ih =>
    obtain ⟨calls, hj, hc⟩ := ih
    cases hd with
    | note c h =>
      refine ⟨c :: calls, by simp [Stage.note, hj], fun d hd => ?_⟩
      rcases List.mem_cons.mp hd with rfl | hd
      · exact h
      · exact hc d hd
    | perform id e =>
      obtain ⟨answers, ha, hs⟩ := (Stage.quiet_perform _ id e).journal
      refine ⟨answers ++ calls, by rw [ha, hj, List.append_assoc], fun d hd => ?_⟩
      rcases List.mem_append.mp hd with hd | hd
      · have := hs d hd
        cases d <;> first | rfl | cases this
      · exact hc d hd
    | _ => exact ⟨calls, hj, hc⟩

/-- Only records change the ledger. -/
lemma ledger (h : Deeds limit noRecord s t) : t.ledger = s.ledger := by
  induction h with
  | refl => rfl
  | tail _ hd ih =>
    rw [← ih]
    cases hd with
    | perform id e => exact (Stage.quiet_perform _ id e).ledger
    | record r h => exact h.elim
    | _ => rfl

end Deeds
end Rehearsal
