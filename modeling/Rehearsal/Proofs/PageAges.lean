import Rehearsal.Proofs.Announcements

/-!
# How pages age

No page is ever taken away, a page that has closed stays closed, and the limits of a page only
ever become those of the session. A page that comes up while the context is listened to has
these limits from the start.
-/

namespace Rehearsal

variable {τ ε : Type} {limit : Int}

/-- The limits that a session sets on its pages. -/
def Timeouts.both (limit : Int) : Timeouts := ⟨some limit, some limit⟩

/-- What may become of a page: it may close, and it may get the session's limits. -/
structure Page.Ages (limit : Int) (p q : Page ε) : Prop where
  closed : p.closed = true → q.closed = true
  timeouts : q.timeouts = p.timeouts ∨ q.timeouts = .both limit

/-- What may become of a stage in a session with this limit. -/
structure Stage.Ages (limit : Int) (s t : Stage τ) : Prop where
  page : ∀ id p, s.page? id = some p → ∃ q, t.page? id = some q ∧ p.Ages limit q
  listeners : t.contextListeners = s.contextListeners
  timeout : t.watch.timeout = s.watch.timeout
  created : s.contextListeners ≠ 0 → s.watch.timeout = limit → ∀ id q, s.page? id = none →
    t.page? id = some q → q.timeouts = .both limit

namespace Page.Ages

variable {p q r : Page ε}

protected lemma rfl : p.Ages limit p := ⟨id, .inl rfl⟩

lemma trans (h : p.Ages limit q) (k : q.Ages limit r) : p.Ages limit r := by
  refine ⟨fun shut => k.closed (h.closed shut), ?_⟩
  rcases k.timeouts with same | set
  · rw [same]
    exact h.timeouts
  · exact .inr set

lemma both (h : p.Ages limit q) (set : p.timeouts = .both limit) : q.timeouts = .both limit := by
  rcases h.timeouts with same | fresh
  · exact same.trans set
  · exact fresh

end Page.Ages

namespace Stage

/-- The page exists and has closed. -/
def Shut (s : Stage τ) (id : Nat) : Prop := ∃ p, s.page? id = some p ∧ p.closed = true

/-- The page exists and both its limits are this one. -/
def Limited (s : Stage τ) (limit : Int) (id : Nat) : Prop :=
  ∃ p, s.page? id = some p ∧ p.timeouts = .both limit

/-- The page exists. -/
def Known (s : Stage τ) (id : Nat) : Prop := ∃ p, s.page? id = some p

variable {s t : Stage τ} {id : Nat}

lemma Shut.isClosed (h : s.Shut id) : s.isClosed id = true := by
  obtain ⟨p, hp, shut⟩ := h
  simp [Stage.isClosed, hp, shut]

lemma known_of_open (h : s.isClosed id = false) : s.Known id := by
  rcases hp : s.page? id with _ | p
  · simp [Stage.isClosed, hp] at h
  · exact ⟨p, hp⟩

lemma Known.shut (h : s.Known id) (closed : s.isClosed id = true) : s.Shut id := by
  obtain ⟨p, hp⟩ := h
  refine ⟨p, hp, ?_⟩
  simpa [Stage.isClosed, hp] using closed

lemma Limited.known (h : s.Limited limit id) : s.Known id := by
  obtain ⟨p, hp, -⟩ := h
  exact ⟨p, hp⟩

lemma page?_updatePage (s : Stage τ) (id other : Nat) (f : Page (Effect τ) → Page (Effect τ)) :
    (s.updatePage id f).page? other =
      if id = other then (s.page? other).map f else s.page? other := by
  unfold updatePage page?
  rw [List.getElem?_modify]
  split
  · rfl
  · simp

/-- Setting the limits of a page that exists. -/
lemma Known.configured (h : s.Known id) (limit : Int) :
    (s.configureTimeouts id limit).Limited limit id := by
  obtain ⟨p, hp⟩ := h
  refine ⟨{ p with timeouts := .both limit }, ?_, rfl⟩
  rw [configureTimeouts, page?_updatePage, if_pos rfl, hp]
  rfl

namespace Ages

lemma known (h : s.Ages limit t) (k : s.Known id) : t.Known id := by
  obtain ⟨p, hp⟩ := k
  obtain ⟨q, hq, -⟩ := h.page id p hp
  exact ⟨q, hq⟩

/-- A closed page stays closed. -/
lemma shut (h : s.Ages limit t) (k : s.Shut id) : t.Shut id := by
  obtain ⟨p, hp, closed⟩ := k
  obtain ⟨q, hq, older⟩ := h.page id p hp
  exact ⟨q, hq, older.closed closed⟩

/-- A page that has the session's limits keeps them. -/
lemma limited (h : s.Ages limit t) (k : s.Limited limit id) : t.Limited limit id := by
  obtain ⟨p, hp, set⟩ := k
  obtain ⟨q, hq, older⟩ := h.page id p hp
  exact ⟨q, hq, older.both set⟩

/-- Every page that has come up since has the session's limits. -/
lemma limited_since (h : s.Ages limit t) (listening : s.contextListeners ≠ 0)
    (watched : s.watch.timeout = limit) (new : id ∈ s.pagesSince t) : t.Limited limit id := by
  obtain ⟨before, after⟩ := mem_pagesSince.mp new
  have absent : s.page? id = none := List.getElem?_eq_none before
  have present : t.page? id = some t.pages[id] := List.getElem?_eq_getElem after
  exact ⟨_, present, h.created listening watched id _ absent present⟩

end Ages

instance : Std.Refl (@Ages τ limit) where
  refl s := by
    refine ⟨fun id p hp => ⟨p, hp, .rfl⟩, rfl, rfl, fun _ _ id q absent present => ?_⟩
    cases absent.symm.trans present

instance : IsTrans (Stage τ) (Ages limit) where
  trans s t u h k := by
    refine ⟨?_, k.listeners.trans h.listeners, k.timeout.trans h.timeout, ?_⟩
    · intro id p hp
      obtain ⟨q, hq, older⟩ := h.page id p hp
      obtain ⟨r, hr, older'⟩ := k.page id q hq
      exact ⟨r, hr, older.trans older'⟩
    · intro listening watched id r absent present
      rcases hq : t.page? id with _ | q
      · -- it has come up in the second half
        have listening' : t.contextListeners ≠ 0 := by rwa [h.listeners]
        exact k.created listening' (h.timeout.trans watched) id r hq present
      · have limited := h.created listening watched id q absent hq
        obtain ⟨r', hr, older⟩ := k.page id q hq
        cases hr.symm.trans present
        exact older.both limited

/-- What neither touches the pages nor how they are watched. -/
lemma ages_of_same (hp : t.pages = s.pages) (hl : t.contextListeners = s.contextListeners)
    (hw : t.watch.timeout = s.watch.timeout) : s.Ages limit t := by
  have same (id : Nat) : t.page? id = s.page? id := by rw [Stage.page?, Stage.page?, hp]
  refine ⟨fun id p found => ⟨p, (same id).trans found, .rfl⟩, hl, hw, ?_⟩
  intro _ _ id q absent present
  cases (absent.symm.trans (same id).symm).trans present

lemma ages_updatePage {f : Page (Effect τ) → Page (Effect τ)}
    (hf : ∀ p : Page (Effect τ), p.Ages limit (f p)) (s : Stage τ) (id : Nat) :
    s.Ages limit (s.updatePage id f) := by
  refine ⟨?_, rfl, rfl, ?_⟩
  · intro other p hp
    rw [page?_updatePage, hp]
    by_cases same : id = other
    · exact ⟨f p, by simp [same], hf p⟩
    · exact ⟨p, by simp [same], .rfl⟩
  · intro _ _ other q absent present
    rw [page?_updatePage, absent] at present
    simp at present

variable [Clock τ]

/-- A new page gets the limit of the watch, the others are left alone. -/
lemma page?_noticePage (s : Stage τ) (id other : Nat) : (s.noticePage id).page? other =
    if id = other then (s.page? other).map fun p =>
      { p with timeouts := .both s.watch.timeout, listeners := p.listeners ++ watchedEvents }
    else s.page? other := by
  have noticed : (s.noticePage id).page? other =
      ((s.configureTimeouts id s.watch.timeout).updatePage id fun p =>
        { p with listeners := p.listeners ++ watchedEvents }).page? other := rfl
  rw [noticed, page?_updatePage, configureTimeouts, page?_updatePage]
  by_cases same : id = other
  · simp only [if_pos same, Option.map_map]
    rfl
  · simp only [if_neg same]

/-- A new page does not touch those that there were. -/
lemma page?_openPage (s : Stage τ) (url : Value) (page : Page (Effect τ)) {p : Page (Effect τ)}
    (hp : s.page? id = some p) : (s.openPage url page).page? id = some p := by
  have old : id < s.pages.length := (List.getElem?_eq_some_iff.mp hp).1
  have new : ¬ s.pages.length = id := by omega
  unfold openPage
  dsimp only
  split
  · exact (List.getElem?_append_left old).trans hp
  · rw [page?_noticePage, if_neg new]
    exact (List.getElem?_append_left old).trans hp

/-- A new page that is listened for gets the limit of the watch. -/
lemma openPage_limits (s : Stage τ) (url : Value) (page : Page (Effect τ)) {q : Page (Effect τ)}
    (listening : s.contextListeners ≠ 0) (absent : s.page? id = none)
    (present : (s.openPage url page).page? id = some q) :
    q.timeouts = .both s.watch.timeout := by
  have after : s.pages.length ≤ id := List.getElem?_eq_none_iff.mp absent
  unfold openPage at present
  dsimp only at present
  rw [if_neg listening, page?_noticePage] at present
  by_cases new : s.pages.length = id
  · rw [if_pos new, Option.map_eq_some_iff] at present
    obtain ⟨p, -, rfl⟩ := present
    rfl
  · rw [if_neg new] at present
    have inside := (List.getElem?_eq_some_iff.mp present).1
    simp only [List.length_append, List.length_singleton] at inside
    omega

lemma ages_openPage (s : Stage τ) (url : Value) (page : Page (Effect τ)) :
    s.Ages limit (s.openPage url page) := by
  have kept : (s.openPage url page).contextListeners = s.contextListeners ∧
      (s.openPage url page).watch.timeout = s.watch.timeout := by
    unfold openPage
    dsimp only
    split <;> exact ⟨rfl, rfl⟩
  refine ⟨fun id p hp => ⟨p, page?_openPage s url page hp, .rfl⟩, kept.1, kept.2, ?_⟩
  intro listening watched id q absent present
  rw [← watched]
  exact openPage_limits s url page listening absent present

lemma ages_act (s : Stage τ) (id : Nat) (e : Effect τ) : s.Ages limit (s.act id e).2 := by
  cases e with
  | openPage url page => exact ages_openPage s url page
  | close other =>
    refine ages_updatePage ?_ s _
    exact fun p => ⟨fun _ => rfl, .inl rfl⟩
  | dialog type message fault =>
    exact emit_within s id .dialog fun t => ages_of_same rfl rfl rfl
  | crash => exact emit_within s id .crash fun t => ages_of_same rfl rfl rfl
  | pageError message => exact emit_within s id .pageError fun t => ages_of_same rfl rfl rfl
  | elapse span => exact ages_of_same rfl rfl rfl
  | raise message timedOut => exact refl s
  | _ =>
    refine ages_updatePage ?_ s _
    exact fun p => ⟨fun shut => shut, .inl rfl⟩

lemma ages_perform (s : Stage τ) (id : Nat) (e : Effect τ) : s.Ages limit (s.perform id e).2 := by
  have seen : s.Ages limit (s.witness id e) := ages_of_same rfl rfl rfl
  exact IsTrans.trans _ _ _ seen (ages_act (s.witness id e) id e)

end Stage

variable [Clock τ] {kept : Record → Prop} {s t : Stage τ}

lemma Deed.ages (h : Deed limit kept s t) : s.Ages limit t := by
  cases h with
  | perform id e => exact Stage.ages_perform s id e
  | script | element | arrive | load =>
    refine Stage.ages_updatePage ?_ s _
    exact fun p => ⟨fun shut => shut, .inl rfl⟩
  | limits id =>
    refine Stage.ages_updatePage ?_ s id
    exact fun p => ⟨fun shut => shut, .inr rfl⟩
  | _ => exact Stage.ages_of_same rfl rfl rfl

/-- Whatever happens in a session, its pages age. -/
theorem Deeds.ages (h : Deeds limit kept s t) : s.Ages limit t := by
  induction h with
  | refl => exact refl s
  | tail _ step ih => exact IsTrans.trans _ _ _ ih step.ages

end Rehearsal
