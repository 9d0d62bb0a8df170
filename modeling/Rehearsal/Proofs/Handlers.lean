import Mathlib.Data.List.Nodup
import Rehearsal.Proofs.PageAges

/-!
# The handlers of the watch

The watch registers one handler for each event of a page that it begins to watch, and removes them
all in the end. What happens on pages meanwhile leaves them registered once, unless the browser
forgets those of a page.
-/

namespace Rehearsal

open Play

variable {τ : Type}

/-- Effects by which the browser forgets the handlers of a page. -/
def Effect.forgets : Effect τ → Bool
  | .dropListeners => true
  | _ => false

namespace Stage

/-- Has the browser forgotten the handlers of a page? -/
def forgot (s : Stage τ) (id : Nat) : Bool :=
  s.happened.any fun h => h.page == id && h.effect.forgets

/-- The events of a page that handlers are registered for, one entry for each handler. -/
def heard (s : Stage τ) (id : Nat) : List PageEvent :=
  ((s.page? id).map (·.listeners)).getD []

/-- Nobody listens to the context or to any page of it, open or closed. -/
structure Unheard (s : Stage τ) : Prop where
  context : s.contextListeners = 0
  pages : ∀ p ∈ s.pages, p.listeners = []

/-- The watch has one handler for each event of the pages that it watches, and there are no
others. A page whose handlers have been forgotten has none. -/
structure Tuned (s : Stage τ) : Prop where
  once : s.watch.pages.Nodup
  there : ∀ id ∈ s.watch.pages, id < s.pages.length
  past : ∀ h ∈ s.happened, h.page < s.pages.length
  heard : ∀ id, s.heard id = if id ∈ s.watch.pages ∧ s.forgot id = false then watchedEvents else []

/-- A stage during a session: the watch listens to the context, once, and to its pages. -/
structure Listening (s : Stage τ) : Prop extends s.Tuned where
  context : s.contextListeners = 1
  started : s.watch.started = true

/-- Neither the watch nor what it listens to has changed. -/
structure Unnoticed (s t : Stage τ) : Prop where
  context : t.contextListeners = s.contextListeners
  started : t.watch.started = s.watch.started
  watched : t.watch.pages = s.watch.pages
  happened : t.happened = s.happened
  count : t.pages.length = s.pages.length
  heard : ∀ id, t.heard id = s.heard id

instance : Std.Refl (@Unnoticed τ) where
  refl _ := ⟨rfl, rfl, rfl, rfl, rfl, fun _ => rfl⟩

instance : IsTrans (Stage τ) Unnoticed where
  trans _ _ _ h k := ⟨k.context.trans h.context, k.started.trans h.started,
    k.watched.trans h.watched, k.happened.trans h.happened, k.count.trans h.count,
    fun id => (k.heard id).trans (h.heard id)⟩

section Handlers

variable {s t : Stage τ}

lemma unheard_iff : s.Unheard ↔ s.contextListeners = 0 ∧ ∀ id, s.heard id = [] := by
  constructor
  · rintro ⟨context, pages⟩
    refine ⟨context, fun id => ?_⟩
    rcases hp : s.page? id with _ | p
    · simp [Stage.heard, hp]
    · simp [Stage.heard, hp, pages p (List.mem_of_getElem? hp)]
  · rintro ⟨context, silent⟩
    refine ⟨context, fun p hp => ?_⟩
    obtain ⟨id, hid⟩ := List.mem_iff_getElem?.mp hp
    simpa [Stage.heard, page?, hid] using silent id

lemma unnoticed_of_same (hc : t.contextListeners = s.contextListeners)
    (hs : t.watch.started = s.watch.started) (hw : t.watch.pages = s.watch.pages)
    (hh : t.happened = s.happened) (hp : t.pages = s.pages) : s.Unnoticed t :=
  ⟨hc, hs, hw, hh, congrArg _ hp, fun id => by simp [Stage.heard, page?, hp]⟩

/-- The handlers of a page after a change to another or to itself. -/
lemma heard_updatePage (s : Stage τ) (id other : Nat) (f : Page (Effect τ) → Page (Effect τ)) :
    (s.updatePage id f).heard other =
      if id = other then ((s.page? other).map fun p => (f p).listeners).getD []
      else s.heard other := by
  rw [Stage.heard, page?_updatePage]
  split
  · rw [Option.map_map]
    rfl
  · rfl

lemma unnoticed_updatePage (s : Stage τ) (id : Nat) {f : Page (Effect τ) → Page (Effect τ)}
    (hf : ∀ p, (f p).listeners = p.listeners) : s.Unnoticed (s.updatePage id f) := by
  refine ⟨rfl, rfl, rfl, rfl, List.length_modify .., fun other => ?_⟩
  rw [heard_updatePage]
  split
  · simp only [hf]
    rfl
  · rfl

lemma forgot_of_same (h : t.happened = s.happened) (id : Nat) : t.forgot id = s.forgot id := by
  rw [forgot, forgot, h]

lemma Tuned.of_unnoticed (h : s.Tuned) (same : s.Unnoticed t) : t.Tuned := by
  refine ⟨?_, ?_, ?_, fun id => ?_⟩
  · rw [same.watched]
    exact h.once
  · rw [same.watched, same.count]
    exact h.there
  · rw [same.happened, same.count]
    exact h.past
  · rw [same.heard, same.watched, forgot_of_same same.happened]
    exact h.heard id

lemma Listening.of_unnoticed (h : s.Listening) (same : s.Unnoticed t) : t.Listening :=
  ⟨h.toTuned.of_unnoticed same, same.context.trans h.context, same.started.trans h.started⟩

lemma Unheard.of_unnoticed (h : s.Unheard) (same : s.Unnoticed t) : t.Unheard := by
  obtain ⟨context, silent⟩ := unheard_iff.mp h
  exact unheard_iff.mpr ⟨same.context.trans context, fun id => (same.heard id).trans (silent id)⟩

end Handlers

/-! ### Watching pages -/

section Watching

variable {s : Stage τ} {id : Nat}

lemma heard_watchPage (s : Stage τ) (id other : Nat) (there : id < s.pages.length) :
    (s.watchPage id).heard other =
      if id = other then s.heard other ++ watchedEvents else s.heard other := by
  have step : (s.watchPage id).heard other =
      (s.updatePage id fun p => { p with listeners := p.listeners ++ watchedEvents }).heard other :=
    rfl
  rw [step, heard_updatePage]
  split
  · next same =>
    subst same
    simp [Stage.heard, page?, there]
  · rfl

/-- Beginning to listen to a page that is there, is not listened to yet and has not had its
handlers forgotten. -/
lemma Tuned.watchPage (h : s.Tuned) (there : id < s.pages.length) (new : id ∉ s.watch.pages)
    (known : s.forgot id = false) : (s.watchPage id).Tuned := by
  have watched : (s.watchPage id).watch.pages = s.watch.pages ++ [id] := rfl
  have count : (s.watchPage id).pages.length = s.pages.length := List.length_modify ..
  refine ⟨?_, ?_, ?_, fun other => ?_⟩
  · rw [watched]
    exact h.once.append (List.nodup_singleton id) (by simpa using new)
  · rw [watched, count]
    intro other hmem
    rcases List.mem_append.mp hmem with old | last
    · exact h.there other old
    · rw [List.mem_singleton.mp last]
      exact there
  · rw [count]
    exact h.past
  · have same : (s.watchPage id).forgot other = s.forgot other := rfl
    rw [heard_watchPage s id other there, h.heard, watched, same]
    by_cases hid : id = other
    · subst hid
      simp [new, known]
    · simp [hid, List.mem_append, Ne.symm hid]

/-- Beginning to listen to several pages. -/
lemma Tuned.foldl_watchPage {ids : List Nat} (h : s.Tuned) (distinct : ids.Nodup)
    (there : ∀ id ∈ ids, id < s.pages.length) (new : ∀ id ∈ ids, id ∉ s.watch.pages)
    (fresh : s.happened = []) : (ids.foldl Stage.watchPage s).Tuned := by
  induction ids generalizing s with
  | nil => exact h
  | cons id ids ih =>
    obtain ⟨first, distinct⟩ := List.nodup_cons.mp distinct
    have known : s.forgot id = false := by simp [forgot, fresh]
    have count : (s.watchPage id).pages.length = s.pages.length := List.length_modify ..
    refine ih (h.watchPage (there id (by simp)) (new id (by simp)) known) distinct ?_ ?_ fresh
    · rw [count]
      exact fun other hmem => there other (by simp [hmem])
    · intro other hmem
      have unlike : other ≠ id := fun same => first (same ▸ hmem)
      have watched : (s.watchPage id).watch.pages = s.watch.pages ++ [id] := rfl
      rw [watched]
      simpa [unlike] using new other (by simp [hmem])

lemma nodup_contextPages (s : Stage τ) : s.contextPages.Nodup :=
  List.nodup_range.filter _

/-- A new page that nobody is told about. -/
lemma Unheard.openPage [Clock τ] (h : s.Unheard) (url : Value) (page : Page (Effect τ)) :
    (s.openPage url page).Unheard := by
  unfold Stage.openPage
  dsimp only
  rw [if_pos h.context]
  refine ⟨h.context, fun p hp => ?_⟩
  rcases List.mem_append.mp hp with old | new
  · exact h.pages p old
  · rw [List.mem_singleton.mp new]

/-- Watching a new context, in which nobody has listened yet. -/
lemma Unheard.startWatch (h : s.Unheard) (fresh : s.happened = []) (timeout : Int) :
    ({ s with watch := { timeout } }.startWatch).Listening := by
  obtain ⟨context, silent⟩ := unheard_iff.mp h
  let t : Stage τ := { s with
    watch := { timeout, started := true }, contextListeners := s.contextListeners + 1 }
  have tuned : t.Tuned := by
    refine ⟨List.nodup_nil, nofun, ?_, fun id => ?_⟩
    · simp [t, fresh]
    · have quiet : t.heard id = [] := silent id
      rw [quiet, if_neg]
      rintro ⟨⟨⟩, -⟩
  have there : ∀ id ∈ s.contextPages, id < t.pages.length := by
    intro id hmem
    exact List.mem_range.mp (List.mem_filter.mp hmem).1
  obtain ⟨counted, -, watch⟩ := s.startWatch_fresh timeout
  refine ⟨tuned.foldl_watchPage s.nodup_contextPages there (by simp [t]) fresh, ?_, ?_⟩
  · rw [counted, context]
  · rw [watch]

/-- Stopping to listen to pages. -/
lemma foldl_unwatchPage {ids : List Nat} (s : Stage τ)
    (h : ∀ id, s.heard id = [] ∨ id ∈ ids ∧ s.heard id = watchedEvents) (id : Nat) :
    (ids.foldl unwatchPage s).heard id = [] := by
  induction ids generalizing s with
  | nil =>
    rcases h id with silent | ⟨hmem, -⟩
    · exact silent
    · cases hmem
  | cons first ids ih =>
    refine ih (s.unwatchPage first) fun other => ?_
    have step : (s.unwatchPage first).heard other =
        if first = other then watchedEvents.foldl List.erase (s.heard other)
        else s.heard other := by
      rw [unwatchPage, heard_updatePage]
      split
      · rcases hp : s.page? other with _ | p
        · simp [Stage.heard, hp, watchedEvents]
        · simp [Stage.heard, hp]
      · rfl
    rw [step]
    by_cases same : first = other
    · rw [if_pos same]
      left
      rcases h other with silent | ⟨-, all⟩
      · rw [silent]
        rfl
      · rw [all]
        rfl
    · rw [if_neg same]
      rcases h other with silent | ⟨hmem, all⟩
      · exact .inl silent
      · exact .inr ⟨(List.mem_cons.mp hmem).resolve_left (Ne.symm same), all⟩

lemma foldl_unwatchPage_keeps (ids : List Nat) (s : Stage τ) :
    (ids.foldl unwatchPage s).contextListeners = s.contextListeners ∧
      (ids.foldl unwatchPage s).happened = s.happened ∧
      (ids.foldl unwatchPage s).pages.length = s.pages.length := by
  induction ids generalizing s with
  | nil => exact ⟨rfl, rfl, rfl⟩
  | cons id ids ih =>
    obtain ⟨context, happened, count⟩ := ih (s.unwatchPage id)
    exact ⟨context, happened, count.trans (List.length_modify ..)⟩

lemma stopWatch_keeps (s : Stage τ) :
    s.stopWatch.happened = s.happened ∧ s.stopWatch.pages.length = s.pages.length := by
  unfold stopWatch
  split
  · exact ⟨rfl, rfl⟩
  · exact (foldl_unwatchPage_keeps s.watch.pages _).2

/-- Once the watch ends nobody listens, not even to pages whose handlers are gone already. -/
lemma Listening.stopWatch (h : s.Listening) : s.stopWatch.Unheard := by
  let t := s.watch.pages.foldl unwatchPage { s with contextListeners := s.contextListeners - 1 }
  have stopped : s.stopWatch = { t with watch := { t.watch with started := false, pages := [] } } := by
    unfold Stage.stopWatch
    rw [h.started]
    rfl
  have silent (id : Nat) : t.heard id = [] := by
    refine foldl_unwatchPage { s with contextListeners := s.contextListeners - 1 } (fun id => ?_) id
    have heard := h.heard id
    by_cases watched : id ∈ s.watch.pages ∧ s.forgot id = false
    · rw [if_pos watched] at heard
      exact .inr ⟨watched.1, heard⟩
    · rw [if_neg watched] at heard
      exact .inl heard
  have context : t.contextListeners = s.contextListeners - 1 :=
    (foldl_unwatchPage_keeps ..).1
  rw [stopped, unheard_iff]
  refine ⟨?_, silent⟩
  change t.contextListeners = 0
  rw [context, h.context]

end Watching

/-! ### Effects -/

section Effects

variable [Clock τ] {s t : Stage τ} {id : Nat} {e : Effect τ}

lemma witness_absent (absent : s.page? id = none) : s.witness id e = s := by
  simp [witness, absent]

lemma happened_witness (there : id < s.pages.length) :
    (s.witness id e).happened = ⟨s.wall, id, e⟩ :: s.happened := by
  have present : s.page? id = some s.pages[id] := List.getElem?_eq_getElem there
  simp [witness, present]

/-- Putting down what does not make the browser forget handlers. -/
lemma forgot_witness (kept : e.forgets = false) (other : Nat) :
    (s.witness id e).forgot other = s.forgot other := by
  rcases hp : s.page? id with _ | p
  · rw [witness_absent hp]
  · simp [forgot, witness, hp, kept]

lemma Listening.witness (h : s.Listening) (past : ∀ n ∈ (s.witness id e).happened,
    n.page < s.pages.length) (kept : e.forgets = false) : (s.witness id e).Listening := by
  refine ⟨⟨h.once, h.there, past, fun other => ?_⟩, h.context, h.started⟩
  rw [forgot_witness kept]
  exact h.heard other

/-- What happens, happens on a page that is there. -/
lemma Tuned.past_witness (h : s.Tuned) :
    ∀ n ∈ (s.witness id e).happened, n.page < s.pages.length := by
  rcases hp : s.page? id with _ | p
  · rw [witness_absent hp]
    exact h.past
  · have there : id < s.pages.length := (List.getElem?_eq_some_iff.mp hp).1
    rw [happened_witness there]
    exact List.forall_mem_cons.mpr ⟨there, h.past⟩

/-- The browser forgets the handlers of a page. -/
lemma Listening.dropListeners (h : s.Listening) (id : Nat) :
    (s.perform id .dropListeners).2.Listening := by
  let t := s.witness id .dropListeners
  have step : (s.perform id .dropListeners).2 =
      t.updatePage id fun p => { p with listeners := [] } := rfl
  have count : (t.updatePage id fun p => { p with listeners := [] }).pages.length =
      s.pages.length := List.length_modify ..
  rw [step]
  refine ⟨⟨h.once, ?_, ?_, fun other => ?_⟩, h.context, h.started⟩
  · rw [count]
    exact h.there
  · rw [count]
    exact h.past_witness
  have forgotten : (t.updatePage id fun p => { p with listeners := [] }).forgot other =
      t.forgot other := rfl
  rw [heard_updatePage, forgotten]
  split
  · next same =>
    subst same
    rw [if_neg]
    · rcases t.page? id with _ | p <;> rfl
    · rintro ⟨watched, known⟩
      have dropped : t.happened = _ := happened_witness (h.there id watched)
      simp [forgot, dropped, Effect.forgets] at known
  · next other_page =>
    have known : t.forgot other = s.forgot other := by
      rcases hp : s.page? id with _ | p
      · exact forgot_of_same (congrArg Stage.happened (witness_absent hp)) other
      · simp [t, forgot, Stage.witness, hp, other_page]
    rw [known]
    exact h.heard other

/-- A page that the context announces is listened to from then on. -/
lemma Listening.openPage (h : s.Listening) (url : Value) (page : Page (Effect τ)) :
    (s.openPage url page).Listening ∧
      (s.openPage url page).watch.pages = s.watch.pages ++ [s.pages.length] := by
  let bare : Page (Effect τ) :=
    { page with url, frames := url :: page.frames.drop 1, listeners := [] }
  let t : Stage τ := { s with pages := s.pages ++ [bare] }
  let u : Stage τ := { t with
    watch := { t.watch with created := t.watch.created ++ [⟨t.wall, s.pages.length⟩] } }
  have announced : s.openPage url page =
      (u.configureTimeouts s.pages.length u.watch.timeout).watchPage s.pages.length := by
    unfold Stage.openPage
    dsimp only
    rw [if_neg (by rw [h.context]; decide)]
    rfl
  have heard (id : Nat) : t.heard id = s.heard id := by
    rcases Nat.lt_trichotomy id s.pages.length with old | rfl | late
    · simp [Stage.heard, page?, t, List.getElem?_append_left old]
    · simp [Stage.heard, page?, t, bare]
    · have beyond : (s.pages ++ [bare])[id]? = none := by
        rw [List.getElem?_eq_none_iff, List.length_append, List.length_singleton]
        omega
      simp [Stage.heard, page?, t, beyond, List.getElem?_eq_none (Nat.le_of_lt late)]
  have grown : t.pages.length = s.pages.length + 1 := List.length_append ..
  have opened : t.Tuned := by
    refine ⟨h.once, fun id watched => ?_, fun n hn => ?_, fun id => ?_⟩
    · rw [grown]
      exact Nat.lt_succ_of_lt (h.there id watched)
    · rw [grown]
      exact Nat.lt_succ_of_lt (h.past n hn)
    · rw [heard]
      exact h.heard id
  have limited : t.Unnoticed (u.configureTimeouts s.pages.length u.watch.timeout) :=
    IsTrans.trans _ u _ (unnoticed_of_same rfl rfl rfl rfl rfl)
      (unnoticed_updatePage u _ fun _ => rfl)
  have ready := opened.of_unnoticed limited
  rw [announced]
  refine ⟨⟨ready.watchPage ?_ ?_ ?_, h.context, h.started⟩, rfl⟩
  · rw [limited.count, grown]
    exact Nat.lt_succ_self _
  · intro watched
    exact Nat.lt_irrefl _ (h.there _ watched)
  · rw [forgot_of_same limited.happened, forgot, List.any_eq_false]
    intro n hn
    have before : n.page < s.pages.length := h.past n hn
    simp [Nat.ne_of_lt before]

omit [Clock τ] in
/-- An event of a page that is listened to is handled once, and no event of another page is. -/
lemma Tuned.emit (h : s.Tuned) (id : Nat) (event : PageEvent) (handler : Stage τ → Stage τ) :
    s.emit id event handler =
      if id ∈ s.watch.pages ∧ s.forgot id = false then handler s else s := by
  have once : watchedEvents.count event = 1 := by cases event <;> rfl
  have heard := h.heard id
  unfold Stage.emit
  split
  · next absent =>
    rw [if_neg]
    rintro ⟨watched, -⟩
    exact absurd (h.there id watched) (Nat.not_lt.mpr (List.getElem?_eq_none_iff.mp absent))
  · next p present =>
    have own : s.heard id = p.listeners := by simp [Stage.heard, present]
    rw [← own, heard]
    split
    · rw [once]
      rfl
    · rfl

lemma Listening.act (h : s.Listening) (kept : e.forgets = false) : (s.act id e).2.Listening := by
  have handled (event : PageEvent) {handler : Stage τ → Stage τ}
      (same : s.Unnoticed (handler s)) : (s.emit id event handler).Listening := by
    rw [h.emit]
    split
    · exact h.of_unnoticed same
    · exact h
  have changed (other : Nat) {f : Page (Effect τ) → Page (Effect τ)}
      (hf : ∀ p, (f p).listeners = p.listeners) : (s.updatePage other f).Listening :=
    h.of_unnoticed (unnoticed_updatePage s other hf)
  cases e with
  | openPage url page => exact (h.openPage url page).1
  | dialog type message fault => exact handled .dialog (unnoticed_of_same rfl rfl rfl rfl rfl)
  | crash => exact handled .crash (unnoticed_of_same rfl rfl rfl rfl rfl)
  | pageError message => exact handled .pageError (unnoticed_of_same rfl rfl rfl rfl rfl)
  | dropListeners => cases kept
  | elapse span => exact h.of_unnoticed (unnoticed_of_same rfl rfl rfl rfl rfl)
  | raise message timedOut => exact h
  | _ => exact changed _ fun _ => rfl

lemma Listening.perform (h : s.Listening) (id : Nat) (e : Effect τ) :
    (s.perform id e).2.Listening := by
  rcases kept : e.forgets with _ | _
  · exact (h.witness h.past_witness kept).act kept
  · cases e <;> first | exact h.dropListeners id | cases kept

/-- While nobody listens, nobody comes to listen by what happens on pages. -/
lemma Unheard.perform (h : s.Unheard) (id : Nat) (e : Effect τ) : (s.perform id e).2.Unheard := by
  obtain ⟨context, silent⟩ := unheard_iff.mp h
  let t := s.witness id e
  have seen : t.Unheard := ⟨h.context, h.pages⟩
  have unhandled (event : PageEvent) (handler : Stage τ → Stage τ) :
      (t.emit id event handler).Unheard := by
    unfold Stage.emit
    split
    · exact seen
    · next p present =>
      rw [seen.pages p (List.mem_of_getElem? present)]
      exact seen
  have changed (other : Nat) {f : Page (Effect τ) → Page (Effect τ)}
      (hf : ∀ p, (f p).listeners = p.listeners) : (t.updatePage other f).Unheard :=
    seen.of_unnoticed (unnoticed_updatePage t other hf)
  unfold Stage.perform
  cases e with
  | openPage url page => exact seen.openPage url page
  | dialog type message fault => exact unhandled .dialog _
  | crash => exact unhandled .crash _
  | pageError message => exact unhandled .pageError _
  | dropListeners =>
    refine unheard_iff.mpr ⟨context, fun other => ?_⟩
    rw [Stage.act, heard_updatePage]
    split
    · rcases t.page? other with _ | p <;> rfl
    · exact silent other
  | elapse span => exact seen.of_unnoticed (unnoticed_of_same rfl rfl rfl rfl rfl)
  | raise message timedOut => exact seen
  | _ => exact changed _ fun _ => rfl

end Effects

end Stage

end Rehearsal
