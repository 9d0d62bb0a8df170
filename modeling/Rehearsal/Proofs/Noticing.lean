import Rehearsal.Proofs.Listening
import Rehearsal.Proofs.RunLedger

/-!
# What a run reports of its browser

While no handlers are forgotten, the watch takes one notice of every dialog, crash and error on
the pages that it watches, in the order in which they happen, and answers every dialog once. A
dialog that refuses its answer neither ends the step in which it comes up nor keeps anything that
happens later from being noticed.
-/

namespace Rehearsal

open Play

variable {τ : Type}

/-- Dialogs, crashes and errors are what pages tell of. -/
def Effect.tells : Effect τ → Bool
  | .dialog .. | .crash | .pageError _ => true
  | _ => false

namespace Happening

/-- The notice to be taken of a dialog. -/
def dialog? (h : Happening τ) : Option (DialogNotice τ) :=
  match h.effect with
  | .dialog type message fault => some ⟨h.timestamp, type, message, "accept", fault⟩
  | _ => none

/-- The notice to be taken of a crash or an error. -/
def error? (h : Happening τ) : Option (PageErrorNotice τ) :=
  match h.effect with
  | .crash => some ⟨h.timestamp, "Page crashed", true⟩
  | .pageError message => some ⟨h.timestamp, message, false⟩
  | _ => none

/-- The answer to be given to a dialog. -/
def answer? (h : Happening τ) : Option (Call τ) :=
  match h.effect with
  | .dialog type message _ => some (.dialogAccept type message)
  | _ => none

end Happening

namespace Stage

/-- No handlers of any page have been forgotten. -/
def Attentive (s : Stage τ) : Prop := ∀ h ∈ s.happened, h.effect.forgets = false

/-- What has happened on pages, in order. -/
def happenedOn (s : Stage τ) (pages : List Nat) : List (Happening τ) :=
  s.happened.reverse.filter fun h => pages.contains h.page

/-- The answers that dialogs have been given, in order. -/
def replies (s : Stage τ) : List (Call τ) := s.trace.filter Call.isAnswer

/-- Dialogs are accepted, and the notices and the answers are those that what has happened on watched
pages calls for, and no others. -/
structure Noticed (earlier : List (Call τ)) (s : Stage τ) : Prop where
  accepts : s.watch.dialogAnswer = "accept"
  dialogs : s.watch.dialogs = (s.happenedOn s.watch.pages).filterMap Happening.dialog?
  errors : s.watch.errors = (s.happenedOn s.watch.pages).filterMap Happening.error?
  replies : s.replies = earlier ++ (s.happenedOn s.watch.pages).filterMap Happening.answer?

/-- A session that, unless handlers have been forgotten, has noticed all. -/
structure Accounted (earlier : List (Call τ)) (s : Stage τ) : Prop extends s.Listening where
  noticed : s.Attentive → s.Noticed earlier

section Steps

variable {earlier : List (Call τ)} {s t : Stage τ} {id : Nat} {e : Effect τ}

lemma Attentive.forgot (h : s.Attentive) (id : Nat) : s.forgot id = false := by
  rw [Stage.forgot, List.any_eq_false]
  intro n hn
  simp [h n hn]

lemma replies_note (s : Stage τ) (c : Call τ) :
    (s.note c).replies = s.replies ++ if c.isAnswer then [c] else [] := by
  unfold replies trace note
  rw [List.reverse_cons, List.filter_append]
  cases hc : c.isAnswer <;> simp [hc]

lemma Accounted.of_same (h : s.Accounted earlier) (same : s.Unnoticed t) (hw : t.watch = s.watch)
    (hr : t.replies = s.replies) : t.Accounted earlier := by
  refine ⟨h.toListening.of_unnoticed same, fun attentive => ?_⟩
  have before : s.Attentive := by
    rw [Attentive, ← same.happened]
    exact attentive
  obtain ⟨accepts, dialogs, errors, replies⟩ := h.noticed before
  have witnessed : t.happenedOn t.watch.pages = s.happenedOn s.watch.pages := by
    rw [hw, happenedOn, happenedOn, same.happened]
  refine ⟨?_, ?_, ?_, ?_⟩
  · rw [hw, accepts]
  · rw [witnessed, hw, dialogs]
  · rw [witnessed, hw, errors]
  · rw [witnessed, hr, replies]

/-- Nothing has happened on a page that is yet to come. -/
lemma Tuned.happenedOn_more (h : s.Tuned) (pages : List Nat) :
    s.happenedOn (pages ++ [s.pages.length]) = s.happenedOn pages := by
  refine List.filter_congr fun n hn => ?_
  have past : n.page < s.pages.length := h.past n (List.mem_reverse.mp hn)
  simp [List.contains_eq_mem, Nat.ne_of_lt past]

end Steps

section Effects

variable [Clock τ] {earlier : List (Call τ)} {s t : Stage τ} {id : Nat} {e : Effect τ}

/-- What happens now, if it happens on a watched page. -/
def occurrence (s : Stage τ) (id : Nat) (e : Effect τ) : List (Happening τ) :=
  if id ∈ s.watch.pages then [⟨s.wall, id, e⟩] else []

/-- The notices and answers that new happenings call for have been added, and nothing else has been
noticed but, possibly, a new page. -/
structure Took (new : List (Happening τ)) (s t : Stage τ) : Prop where
  dialogs : t.watch.dialogs = s.watch.dialogs ++ new.filterMap Happening.dialog?
  errors : t.watch.errors = s.watch.errors ++ new.filterMap Happening.error?
  replies : t.replies = s.replies ++ new.filterMap Happening.answer?
  answer : t.watch.dialogAnswer = s.watch.dialogAnswer
  pages : t.watch.pages = s.watch.pages ∨ t.watch.pages = s.watch.pages ++ [s.pages.length]

omit [Clock τ] in
lemma took_nothing (hw : t.watch = s.watch) (hr : t.replies = s.replies) : Took [] s t :=
  ⟨by simp [hw], by simp [hw], by simp [hr], by rw [hw], .inl (by rw [hw])⟩

/-- What a page does not tell of calls for nothing. -/
lemma Took.untold (h : Took [] s t) (untold : e.tells = false) :
    Took (s.occurrence id e) s t := by
  have none (n : Happening τ) (hn : n ∈ s.occurrence id e) :
      n.dialog? = none ∧ n.error? = none ∧ n.answer? = none := by
    unfold occurrence at hn
    split at hn
    · rw [List.mem_singleton.mp hn]
      cases e <;> first | exact ⟨rfl, rfl, rfl⟩ | cases untold
    · cases hn
  have dialogs := List.filterMap_eq_nil_iff.mpr fun n hn => (none n hn).1
  have errors := List.filterMap_eq_nil_iff.mpr fun n hn => (none n hn).2.1
  have answers := List.filterMap_eq_nil_iff.mpr fun n hn => (none n hn).2.2
  refine ⟨?_, ?_, ?_, h.answer, h.pages⟩
  · rw [dialogs]
    exact h.dialogs
  · rw [errors]
    exact h.errors
  · rw [answers]
    exact h.replies

/-- The handler of an event that a page tells of runs once if the page is watched. -/
lemma Listening.took_emit (h : s.Listening) (known : s.forgot id = false) (event : PageEvent)
    {handler : Stage τ → Stage τ} (took : Took [⟨s.wall, id, e⟩] s (handler s)) :
    Took (s.occurrence id e) s (s.emit id event handler) := by
  rw [h.emit, occurrence]
  split
  · next watched =>
    rw [if_pos (And.intro watched known)]
    exact took
  · next unwatched =>
    rw [if_neg (not_and.mpr fun watched => absurd watched unwatched)]
    exact took_nothing rfl rfl

lemma took_answerDialog (accepts : s.watch.dialogAnswer = "accept") (type message : String)
    (fault : Option String) : Took [⟨s.wall, id, .dialog type message fault⟩] s
      (s.answerDialog type message fault) := by
  have accepting : s.watch.dismisses = false := by simp [Watch.dismisses, accepts]
  have replied : (s.answerDialog type message fault).replies =
      (s.note (.dialogAccept type message)).replies := by
    unfold answerDialog
    rw [accepting]
    rfl
  refine ⟨?_, ?_, ?_, rfl, .inl rfl⟩
  · simp [answerDialog, note, Happening.dialog?, accepts]
  · simp [answerDialog, note, Happening.error?]
  · rw [replied, replies_note]
    rfl

lemma took_noticeError (message : String) (crashed : Bool)
    (hd : Happening.dialog? ⟨s.wall, id, e⟩ = none)
    (he : Happening.error? ⟨s.wall, id, e⟩ = some ⟨s.wall, message, crashed⟩)
    (ha : Happening.answer? ⟨s.wall, id, e⟩ = none) :
    Took [⟨s.wall, id, e⟩] s (s.noticeError message crashed) := by
  refine ⟨?_, ?_, ?_, rfl, .inl rfl⟩
  · simp [noticeError, hd]
  · simp [noticeError, he]
  · rw [List.filterMap_cons_none ha]
    exact (List.append_nil _).symm

lemma Listening.took_act (h : s.Listening) (attentive : s.Attentive)
    (accepts : s.watch.dialogAnswer = "accept") (id : Nat) (e : Effect τ) :
    Took (s.occurrence id e) s (s.act id e).2 := by
  have known : s.forgot id = false := attentive.forgot id
  have untouched {t : Stage τ} (hw : t.watch = s.watch) (hj : t.journal = s.journal) :
      Took [] s t :=
    took_nothing hw (by rw [replies, replies, trace, trace, hj])
  cases e with
  | openPage url page =>
    refine Took.untold ?_ rfl
    have pages := (h.openPage url page).2
    have rest : (s.openPage url page).watch.dialogs = s.watch.dialogs ∧
        (s.openPage url page).watch.errors = s.watch.errors ∧
        (s.openPage url page).watch.dialogAnswer = s.watch.dialogAnswer ∧
        (s.openPage url page).journal = s.journal := by
      unfold Stage.openPage
      dsimp only
      split <;> exact ⟨rfl, rfl, rfl, rfl⟩
    obtain ⟨dialogs, errors, answer, journal⟩ := rest
    refine ⟨?_, ?_, ?_, answer, .inr pages⟩
    · exact dialogs.trans (List.append_nil _).symm
    · exact errors.trans (List.append_nil _).symm
    · rw [replies, trace, Stage.act, journal]
      exact (List.append_nil _).symm
  | dialog type message fault =>
    exact h.took_emit known .dialog (took_answerDialog accepts type message fault)
  | crash => exact h.took_emit known .crash (took_noticeError _ _ rfl rfl rfl)
  | pageError message => exact h.took_emit known .pageError (took_noticeError _ _ rfl rfl rfl)
  | _ =>
    refine Took.untold ?_ rfl
    exact untouched rfl rfl

/-- What happens on watched pages. -/
lemma Tuned.happenedOn_witness (h : s.Tuned) (id : Nat) (e : Effect τ) :
    (s.witness id e).happenedOn s.watch.pages =
      s.happenedOn s.watch.pages ++ s.occurrence id e := by
  unfold occurrence
  by_cases watched : id ∈ s.watch.pages
  · rw [if_pos watched, happenedOn, happened_witness (h.there id watched), List.reverse_cons,
      List.filter_append]
    simp [happenedOn, watched]
  · rw [if_neg watched, List.append_nil]
    rcases hp : s.page? id with _ | p
    · rw [witness_absent hp]
    · have there : id < s.pages.length := (List.getElem?_eq_some_iff.mp hp).1
      rw [happenedOn, happened_witness there, List.reverse_cons, List.filter_append]
      simp [happenedOn, watched]

lemma Attentive.of_witness (h : (s.witness id e).Attentive) : s.Attentive := by
  intro n hn
  exact h n (List.mem_append_right _ hn)

/-- The same has happened. -/
abbrev SameHappened (s t : Stage τ) : Prop := t.happened = s.happened

instance : Std.Refl (@SameHappened τ) where
  refl _ := rfl

instance : IsTrans (Stage τ) SameHappened where
  trans _ _ _ h k := k.trans h

/-- What happens has been put down before it is acted on. -/
lemma happened_act (s : Stage τ) (id : Nat) (e : Effect τ) :
    (s.act id e).2.happened = s.happened := by
  cases e with
  | openPage url page =>
    unfold act openPage
    dsimp only
    split <;> rfl
  | dialog type message fault => exact s.emit_within (R := SameHappened) id .dialog fun _ => rfl
  | crash => exact s.emit_within (R := SameHappened) id .crash fun _ => rfl
  | pageError message => exact s.emit_within (R := SameHappened) id .pageError fun _ => rfl
  | _ => rfl

/-- What is acted on is noticed. -/
lemma Noticed.act (h : s.Noticed earlier) (listening : (s.witness id e).Listening)
    (there : s.Tuned) (attentive : (s.witness id e).Attentive) :
    (s.perform id e).2.Noticed earlier := by
  let w := s.witness id e
  let t := (w.act id e).2
  have took : Took (s.occurrence id e) w t := listening.took_act attentive h.accepts id e
  have replies : w.replies = s.replies := rfl
  have more : w.happenedOn t.watch.pages = w.happenedOn s.watch.pages := by
    rcases took.pages with same | grown
    · rw [same]
      rfl
    · rw [grown]
      exact listening.happenedOn_more w.watch.pages
  have seen : t.happenedOn t.watch.pages =
      s.happenedOn s.watch.pages ++ s.occurrence id e := by
    have happened : t.happened = w.happened := happened_act w id e
    rw [← there.happenedOn_witness, ← more, happenedOn, happened]
    rfl
  refine ⟨took.answer.trans h.accepts, ?_, ?_, ?_⟩
  · calc t.watch.dialogs
        = s.watch.dialogs ++ (s.occurrence id e).filterMap Happening.dialog? := took.dialogs
      _ = (t.happenedOn t.watch.pages).filterMap Happening.dialog? := by
        rw [h.dialogs, seen, List.filterMap_append]
  · calc t.watch.errors
        = s.watch.errors ++ (s.occurrence id e).filterMap Happening.error? := took.errors
      _ = (t.happenedOn t.watch.pages).filterMap Happening.error? := by
        rw [h.errors, seen, List.filterMap_append]
  · calc t.replies
        = w.replies ++ (s.occurrence id e).filterMap Happening.answer? := took.replies
      _ = earlier ++ (t.happenedOn t.watch.pages).filterMap Happening.answer? := by
        rw [replies, h.replies, seen, List.filterMap_append, List.append_assoc]

lemma Accounted.perform (h : s.Accounted earlier) (id : Nat) (e : Effect τ) :
    (s.perform id e).2.Accounted earlier := by
  refine ⟨h.toListening.perform id e, fun attentive => ?_⟩
  rcases kept : e.forgets with _ | _
  · have listening : (s.witness id e).Listening := h.witness h.past_witness kept
    have seen : (s.witness id e).Attentive := by
      rw [Attentive, ← happened_act (s.witness id e) id e]
      exact attentive
    exact (h.noticed seen.of_witness).act listening h.toTuned seen
  · rcases there : s.page? id with _ | p
    · have unseen : s.witness id e = s := witness_absent there
      have absent : (s.perform id e).2 = (s.act id e).2 := by rw [Stage.perform, unseen]
      rw [absent] at attentive ⊢
      cases e <;> cases kept
      obtain ⟨accepts, dialogs, errors, replies⟩ := h.noticed attentive
      exact ⟨accepts, dialogs, errors, replies⟩
    -- a page that is there is no longer heard, so not everything need be noticed any more
    · have known : (s.witness id e).Attentive := by
        cases e <;> first | exact attentive | cases kept
      have forgotten := known ⟨s.wall, id, e⟩ (by simp [Stage.witness, there])
      cases forgotten.symm.trans kept

end Effects

/-- A session keeps account of what happens. -/
abbrev KeepsAccount (earlier : List (Call τ)) (s t : Stage τ) : Prop :=
  s.Accounted earlier → t.Accounted earlier

section Sessions

variable [Clock τ] {earlier : List (Call τ)}

omit [Clock τ] in
lemma keepsAccount_of_same {s t : Stage τ} (hc : t.contextListeners = s.contextListeners)
    (hw : t.watch = s.watch) (hh : t.happened = s.happened) (hp : t.pages = s.pages)
    (hr : t.replies = s.replies) : s.KeepsAccount earlier t := by
  have same : s.Unnoticed t := unnoticed_of_same hc (by rw [hw]) (by rw [hw]) hh hp
  exact fun h => h.of_same same hw hr

omit [Clock τ] in
lemma keepsAccount_updatePage (s : Stage τ) (id : Nat) {f : Page (Effect τ) → Page (Effect τ)}
    (hf : ∀ p, (f p).listeners = p.listeners) : s.KeepsAccount earlier (s.updatePage id f) :=
  fun h => h.of_same (unnoticed_updatePage s id hf) rfl rfl

omit [Clock τ] in
lemma replies_plain (s : Stage τ) {c : Call τ} (plain : c.isAnswer = false) :
    (s.note c).replies = s.replies := by
  rw [replies_note, plain]
  exact List.append_nil _

instance : Stage.Admits (@KeepsAccount τ earlier) where
  refl _ := id
  trans _ _ _ h k accounted := k (h accounted)
  note s _ _ plain := keepsAccount_of_same rfl rfl rfl rfl (replies_plain s plain)
  perform _ id e accounted := accounted.perform id e
  pass _ _ := keepsAccount_of_same rfl rfl rfl rfl rfl
  meanwhile _ _ := keepsAccount_of_same rfl rfl rfl rfl rfl
  answers _ _ := keepsAccount_of_same rfl rfl rfl rfl rfl
  script s id _ := keepsAccount_updatePage s id fun _ => rfl
  element s id _ _ := keepsAccount_updatePage s id fun _ => rfl
  arrive s id _ := keepsAccount_updatePage s id fun _ => rfl
  load s id _ := keepsAccount_updatePage s id fun _ => rfl

instance (limit : Int) : Stage.AdmitsLimit limit (@KeepsAccount τ earlier) where
  limits s id := keepsAccount_updatePage s id fun _ => rfl

instance : Stage.AdmitsFiles (@KeepsAccount τ earlier) where
  files _ _ := keepsAccount_of_same rfl rfl rfl rfl rfl

end Sessions

/-! ### Steps that raise -/

/-- What an effect raises. -/
def raised? : Effect τ → Option DriverFailure
  | .raise message timedOut => some { message, timedOut }
  | _ => none

/-- The effects of a step up to the first that raises, with this one. -/
def played : Step τ → Step τ
  | [] => []
  | e :: rest => if (raised? e).isSome then [e] else e :: played rest

section Steps

variable [Clock τ] (s : Stage τ) (id : Nat)

lemma perform_raised (e : Effect τ) : (s.perform id e).1 = raised? e := by
  cases e <;> rfl

/-- A step ends with what is raised first, if anything is; a dialog raises nothing. -/
lemma performAll_raised (step : Step τ) :
    (s.performAll id step).1 = step.findSome? raised? := by
  induction step generalizing s with
  | nil => rfl
  | cons e rest ih =>
    have raised := s.perform_raised id e
    unfold performAll
    rcases hp : s.perform id e with ⟨_ | f, t⟩ <;> rw [hp] at raised
    · rw [List.findSome?_cons, ← raised]
      exact ih t
    · rw [List.findSome?_cons, ← raised]

/-- All effects up to the first that raises happen, in order. -/
lemma performAll_played {s : Stage τ} {id : Nat} (there : id < s.pages.length) (step : Step τ) :
    ((s.performAll id step).2.happened.map fun n => (n.page, n.effect)) =
      ((played step).map fun e => (id, e)).reverse ++ s.happened.map fun n => (n.page, n.effect) := by
  induction step generalizing s with
  | nil => rfl
  | cons e rest ih =>
    have raised := s.perform_raised id e
    have put : (s.perform id e).2.happened = ⟨s.wall, id, e⟩ :: s.happened :=
      (happened_act _ id e).trans (happened_witness there)
    have grown := (s.attended_perform id e).grown
    unfold performAll played
    rcases hp : s.perform id e with ⟨_ | f, t⟩ <;> rw [hp] at raised put grown <;>
      dsimp only at raised put grown
    · have later := ih (Nat.lt_of_lt_of_le there grown)
      rw [put] at later
      rw [← raised]
      simpa using later
    · rw [← raised]
      simp [put]

end Steps

end Stage

/-! ### Reports -/

namespace Happening

/-- The entry of a report for a dialog. -/
def dialogEntry? (h : Happening Float) : Option Value :=
  match h.effect with
  | .dialog type message fault =>
    some (.object ([("timestamp", .float h.timestamp), ("type", .text type),
      ("message", .text message), ("action", .text "accept")] ++
      match fault with
      | none => [("status", .text "accepted")]
      | some error => [("status", .text "error"), ("error", .text error)]))
  | _ => none

/-- The entry of a report for a crash or an error. -/
def errorEntry? (h : Happening Float) : Option Value :=
  match h.effect with
  | .crash => some (.object [("timestamp", .float h.timestamp), ("message", .text "Page crashed"),
      ("level", .text "ERROR")])
  | .pageError message => some (.object [("timestamp", .float h.timestamp),
      ("message", .text message), ("level", .text "WARNING")])
  | _ => none

lemma dialogEntry?_eq (h : Happening Float) :
    h.dialogEntry? = h.dialog?.map fun d => .object d.toFields := by
  obtain ⟨timestamp, page, effect⟩ := h
  cases effect with
  | dialog type message fault => cases fault <;> rfl
  | _ => rfl

lemma errorEntry?_eq (h : Happening Float) :
    h.errorEntry? = h.error?.map fun e => .object e.toFields := by
  obtain ⟨timestamp, page, effect⟩ := h
  cases effect <;> rfl

end Happening

namespace Watch

variable (w : Watch Float)

lemma snapshot_created : w.snapshot.lookup "pages_created" = some (.int w.created.length) := rfl

lemma snapshot_dialogs : (w.snapshot.lookup "dialogs").getD (.list []) =
    .list (w.dialogs.map fun d => .object d.toFields) := by
  unfold snapshot
  rcases w.dialogs with _ | ⟨d, ds⟩ <;> rcases w.errors with _ | ⟨e, es⟩ <;> rfl

lemma snapshot_errors : (w.snapshot.lookup "page_errors").getD (.list []) =
    .list (w.errors.map fun e => .object e.toFields) := by
  unfold snapshot
  rcases w.dialogs with _ | ⟨d, ds⟩ <;> rcases w.errors with _ | ⟨e, es⟩ <;> rfl

end Watch

namespace Run

open Stage

variable {settings : Settings} {url : Value} {session : Session} {actions : List Action}
  {s t u v : Stage Float} {result : RunResult}

/-- A session begins with nothing to account for. -/
lemma launch_accounted (h : Session.launch settings s = (.done session, t)) :
    t.Accounted t.replies := by
  obtain ⟨listening, happened, watch⟩ := Session.launch_listening h
  refine ⟨listening, fun _ => ⟨?_, ?_, ?_, ?_⟩⟩
  · rw [watch]
  · rw [watch, happenedOn, happened]
    rfl
  · rw [watch, happenedOn, happened]
    rfl
  · rw [happenedOn, happened]
    exact (List.append_nil _).symm

lemma inSession_account (settings : Settings) (session : Session) (url : Value)
    (actions : List Action) (earlier : List (Call Float)) :
    Within (KeepsAccount earlier) True (inSession settings session url actions) := by
  have recorded (page : Option Nat) (caption : Screenshot.Caption) (attempt : Option Int) :
      Within (KeepsAccount earlier) True
        ((Screenshot.Camera.ofSettings settings).record page caption attempt : Play Float _) :=
    Screenshot.Camera.record_within _ page caption attempt
      (fun page _ => Screenshot.Camera.shoot_deeds _ page _)
      fun _ _ _ => keepsAccount_of_same rfl rfl rfl rfl rfl
  exact inSession_within recorded (saveScreenshot_deeds settings) session url actions
    fun _ _ => trivial

/-- The result of a run has what the watch shows when its page has been read. -/
lemma inSession_watch (h : inSession settings session url actions s = (.done (.ok result), t)) :
    result.watch = t.watch := by
  obtain ⟨pts, hv⟩ := visited h nofun
  cases hv with
  | done h hi ha hf =>
    cases hf with
    | done => rfl

/-- What the result of a run says of the browser, from the launch of the session on the stage `t` to
the end of the run on the stage `u`. Watched are the pages that were there and those announced
since. -/
structure Reported (t u : Stage Float) (result : RunResult) : Prop where
  watched : result.watch.pages = t.contextPages ++ t.pagesSince u
  created : result.watch.pagesCreated = t.pagesSince u
  /-- Every dialog on a watched page is answered once. -/
  answered : u.replies = t.replies ++
    (u.happenedOn (t.contextPages ++ t.pagesSince u)).filterMap Happening.answer?
  events : result.report.lookup "events" = some (.object result.watch.snapshot)
  counted : result.watch.snapshot.lookup "pages_created" = some (.int (t.pagesSince u).length)
  dialogs : (result.watch.snapshot.lookup "dialogs").getD (.list []) = .list
    ((u.happenedOn (t.contextPages ++ t.pagesSince u)).filterMap Happening.dialogEntry?)
  errors : (result.watch.snapshot.lookup "page_errors").getD (.list []) = .list
    ((u.happenedOn (t.contextPages ++ t.pagesSince u)).filterMap Happening.errorEntry?)

/-- A session whose watch has taken account of everything reports it. -/
lemma reported (launched : Session.launch settings s = (.done session, t))
    (h : inSession settings session url actions t = (.done (.ok result), u))
    (attentive : u.Attentive) : Reported t u result := by
  have accounted : u.Accounted t.replies :=
    (inSession_account settings session url actions t.replies).stage h (launch_accounted launched)
  obtain ⟨-, dialogs, errors, replies⟩ := accounted.noticed attentive
  obtain ⟨-, -, watch⟩ := Session.launch_listening launched
  have attended : t.Attended u := by
    have deeds := inSession_stage settings session url actions t
    rw [h] at deeds
    exact deeds.attended
  have listens := Session.launch_listens launched
  have watched : u.watch.pages = t.contextPages ++ t.pagesSince u := by
    rw [attended.watched listens, watch]
  have created : u.watch.pagesCreated = t.pagesSince u := by
    rw [attended.created listens, watch]
    rfl
  have same := inSession_watch h
  rw [watched] at dialogs errors replies
  refine ⟨?_, ?_, replies, rfl, ?_, ?_, ?_⟩
  · rw [same, watched]
  · rw [same, created]
  · have count : u.watch.created.length = (t.pagesSince u).length := by
      rw [← created]
      exact (List.length_map _).symm
    rw [same, Watch.snapshot_created, count]
  · rw [same, Watch.snapshot_dialogs, dialogs, List.map_filterMap]
    simp only [Happening.dialogEntry?_eq]
  · rw [same, Watch.snapshot_errors, errors, List.map_filterMap]
    simp only [Happening.errorEntry?_eq]

/-- Closing the session changes nothing of it. -/
lemma Reported.closed (h : Reported t u result)
    (launched : Session.launch settings s = (.done session, t)) {closed : Session}
    (hc : Session.close session u = (.done closed, v)) (same : v.replies = u.replies) :
    Reported t v result := by
  have ended := Session.close_unnoticed launched hc
  obtain ⟨happened, count⟩ := u.stopWatch_keeps
  have since : t.pagesSince v = t.pagesSince u := by
    rw [pagesSince, ended.count, count, pagesSince]
  have seen (pages : List Nat) : v.happenedOn pages = u.happenedOn pages := by
    rw [happenedOn, ended.happened, happened, happenedOn]
  obtain ⟨watched, created, answered, events, counted, dialogs, errors⟩ := h
  exact ⟨by rw [since, watched], by rw [since, created], by rw [since, seen, same, answered], events,
    by rw [since, counted], by rw [since, seen, dialogs], by rw [since, seen, errors]⟩

/-- The events of a run that works account for all that has happened on the pages of its session,
if no handlers are forgotten, and a dialog does not end the step in which it comes up: a step ends
with the first of its effects that raises, and all before it happen. -/
theorem events_accounted (settings : Settings) (url : Value) (g : Given) :
    (∀ (s u : Stage Float) (result : RunResult),
      ofGiven settings url g s = (.done (.ok result), u) → u.Attentive →
      ∃ session t, Session.launch settings (opened s) = (.done session, t) ∧
        Reported t u result) ∧
    ∀ (s : Stage Float) (id : Nat) (step : Step Float), id < s.pages.length →
      (Browser.runStep id step s).1 = (match step.findSome? raised? with
        | none => .done ()
        | some f => .failed (.driver f)) ∧
      ((Browser.runStep id step s).2.happened.map fun n => (n.page, n.effect)) =
        ((played step).map fun e => (id, e)).reverse ++
          s.happened.map fun n => (n.page, n.effect) := by
  constructor
  · intro s u result h attentive
    rcases hg : g.read with cause | actions
    · cases (ofGiven_unread settings url hg s).symm.trans h
    rcases ran settings url s hg with
      ⟨f, t, hl, calls, called, ended, hr⟩ |
      ⟨session, t, hl, calls, called, ahead, r, v, hs, w, hc, closing, hr⟩ |
      ⟨t, hr, -⟩
    · cases hr.symm.trans h
    · obtain ⟨worked, rfl⟩ := Prod.mk.inj (hr.symm.trans h)
      have done : inSession settings session url actions t = (.done (.ok result), v) := by
        cases r with
        | error cause => cases worked
        | ok _ =>
          cases worked
          rcases settled_cases hs with hx | ⟨f, -, hf⟩
          · exact hx
          · cases hf
      have ended := (Session.close_unnoticed hl hc).happened.trans v.stopWatch_keeps.1
      have before : v.Attentive := by
        rw [Attentive, ← ended]
        exact attentive
      have replies : w.replies = v.replies := by
        rw [Stage.replies, closing.trace, List.filter_append]
        exact List.append_nil _
      exact ⟨session, t, hl, (reported hl done before).closed hl hc replies⟩
    · cases hr.symm.trans h
  · intro s id step there
    have raised := s.performAll_raised id step
    have happened := performAll_played there step
    unfold Browser.runStep
    rcases hp : s.performAll id step with ⟨_ | f, t⟩ <;> rw [hp] at raised happened
    · exact ⟨by rw [← raised], happened⟩
    · exact ⟨by rw [← raised], happened⟩

/-- On its way to the address a page opens another and shows a dialog that refuses its answer; then
it crashes. The run works, and all of it is reported. -/
theorem events_accounted_refused : ∃ result u,
    ofGiven Settings.standard (.text "https://x") (.items [.ready .switchToMain])
      { now := 0, prepared := [{ script := [("goto", [[.openPage (.text "https://y") {},
        .dialog "alert" "hello" (some "refused"), .crash]])] }] } = (.done (.ok result), u) ∧
    u.Attentive ∧
    result.watch.dialogs.map (fun d => (d.message, d.status)) = [("hello", "error")] ∧
    result.watch.errors.map (·.message) = ["Page crashed"] ∧
    ∃ session t, Session.launch Settings.standard
        { now := 0, prepared := [{ script := [("goto", [[.openPage (.text "https://y") {},
          .dialog "alert" "hello" (some "refused"), .crash]])] }] } = (.done session, t) ∧
      t.pagesSince u = [1] ∧ Reported t u result := by
  let s : Stage Float := { now := 0, prepared := [{ script :=
    [("goto", [[.openPage (.text "https://y") {}, .dialog "alert" "hello" (some "refused"),
      .crash]])] }] }
  have account := (events_accounted Settings.standard (.text "https://x")
    (.items [.ready .switchToMain])).1 s
  have shown : (ofGiven Settings.standard (.text "https://x") (.items [.ready .switchToMain])
        s).1.value?.any (fun answer => answer.toOption.any fun result =>
          (ofGiven Settings.standard (.text "https://x") (.items [.ready .switchToMain])
            s).2.happened.all (!·.effect.forgets) &&
          result.watch.dialogs.map (fun d => (d.message, d.status)) = [("hello", "error")] &&
          result.watch.errors.map (·.message) = ["Page crashed"] &&
          result.watch.pagesCreated = [1]) = true := by decide +kernel
  rcases h : ofGiven Settings.standard (.text "https://x") (.items [.ready .switchToMain]) s with
    ⟨(failure | result) | f | _, u⟩ <;> rw [h] at shown
  · cases shown
  · simp only [Ending.value?, Except.toOption, Option.any_some, Bool.and_eq_true,
      decide_eq_true_eq, List.all_eq_true, Bool.not_eq_true'] at shown
    obtain ⟨⟨⟨attentive, dialogs⟩, errors⟩, created⟩ := shown
    obtain ⟨session, t, launched, reported⟩ := account u result h attentive
    have since : t.pagesSince u = [1] := reported.created.symm.trans created
    exact ⟨result, u, rfl, attentive, dialogs, errors, session, t, launched, since, reported⟩
  · cases shown
  · cases shown

end Run
end Rehearsal
