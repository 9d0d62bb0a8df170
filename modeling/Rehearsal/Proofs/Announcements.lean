import Rehearsal.Proofs.RunDeeds

/-!
# Pages that the context announces

While somebody listens to the context, each page that is created is announced, and the
watch puts it down. So what the watch has put down since a marker are the pages created
since then, in the order in which they were created, and no others.
-/

namespace Rehearsal

open Play

variable {τ : Type}

/-- The pages that were created between two stages, in order of creation. -/
def Stage.pagesSince (s t : Stage τ) : List Nat :=
  List.range' s.pages.length (t.pages.length - s.pages.length)

/-- The pages that the watch has put down. -/
def Watch.pagesCreated (w : Watch τ) : List Nat := w.created.map (·.page)

/-- A later stage with the same listeners. If there is one, the watch has put down every page
created meanwhile, and watches it. -/
structure Stage.Attended (s t : Stage τ) : Prop where
  listeners : t.contextListeners = s.contextListeners
  grown : s.pages.length ≤ t.pages.length
  created : s.contextListeners ≠ 0 →
    t.watch.pagesCreated = s.watch.pagesCreated ++ s.pagesSince t
  watched : s.contextListeners ≠ 0 → t.watch.pages = s.watch.pages ++ s.pagesSince t

namespace Stage

lemma mem_pagesSince {s t : Stage τ} {id : Nat} :
    id ∈ s.pagesSince t ↔ s.pages.length ≤ id ∧ id < t.pages.length := by
  rw [pagesSince, List.mem_range'_1]
  omega

lemma pagesSince_append {s t u : Stage τ} (hst : s.pages.length ≤ t.pages.length)
    (htu : t.pages.length ≤ u.pages.length) :
    s.pagesSince t ++ t.pagesSince u = s.pagesSince u := by
  have start : t.pages.length = s.pages.length + 1 * (t.pages.length - s.pages.length) := by omega
  have total : u.pages.length - s.pages.length =
      (t.pages.length - s.pages.length) + (u.pages.length - t.pages.length) := by omega
  unfold pagesSince
  rw [total, ← List.range'_append, ← start]

instance : Std.Refl (@Attended τ) where
  refl s := by
    have none : s.pagesSince s = [] := by simp [pagesSince]
    refine ⟨rfl, Nat.le_refl _, fun _ => ?_, fun _ => ?_⟩ <;> rw [none, List.append_nil]

instance : IsTrans (Stage τ) Attended where
  trans s t u hst htu := by
    have kept : u.contextListeners = s.contextListeners := htu.listeners.trans hst.listeners
    have later (listening : s.contextListeners ≠ 0) : t.contextListeners ≠ 0 := by
      rwa [hst.listeners]
    refine ⟨kept, Nat.le_trans hst.grown htu.grown, fun listening => ?_, fun listening => ?_⟩
    · rw [htu.created (later listening), hst.created listening, List.append_assoc,
        pagesSince_append hst.grown htu.grown]
    · rw [htu.watched (later listening), hst.watched listening, List.append_assoc,
        pagesSince_append hst.grown htu.grown]

/-- What neither creates a page nor touches the watch over pages. -/
lemma attended_of_same {s t : Stage τ} (hl : t.contextListeners = s.contextListeners)
    (hp : t.pages.length = s.pages.length) (hc : t.watch.created = s.watch.created)
    (hw : t.watch.pages = s.watch.pages) : s.Attended t := by
  refine ⟨hl, Nat.le_of_eq hp.symm, fun _ => ?_, fun _ => ?_⟩
  · simp [pagesSince, hp, Watch.pagesCreated, hc]
  · simp [pagesSince, hp, hw]

lemma attended_updatePage (s : Stage τ) (id : Nat) (f : Page (Effect τ) → Page (Effect τ)) :
    s.Attended (s.updatePage id f) :=
  attended_of_same rfl (List.length_modify ..) rfl rfl

variable [Clock τ]

lemma attended_openPage (s : Stage τ) (url : Value) (page : Page (Effect τ)) :
    s.Attended (s.openPage url page) := by
  unfold openPage
  dsimp only
  split
  · next unheard =>
    exact ⟨rfl, by simp, fun listening => absurd unheard listening,
      fun listening => absurd unheard listening⟩
  · refine ⟨rfl, ?_, fun _ => ?_, fun _ => ?_⟩
    · simp [noticePage, watchPage, configureTimeouts, updatePage]
    · simp [noticePage, watchPage, configureTimeouts, updatePage, Watch.pagesCreated, pagesSince]
    · simp [noticePage, watchPage, configureTimeouts, updatePage, pagesSince]

lemma attended_act (s : Stage τ) (id : Nat) (e : Effect τ) : s.Attended (s.act id e).2 := by
  cases e with
  | openPage url page => exact attended_openPage s url page
  | dialog type message fault =>
    exact emit_within s id .dialog fun t => attended_of_same rfl rfl rfl rfl
  | crash => exact emit_within s id .crash fun t => attended_of_same rfl rfl rfl rfl
  | pageError message => exact emit_within s id .pageError fun t => attended_of_same rfl rfl rfl rfl
  | elapse span => exact attended_of_same rfl rfl rfl rfl
  | raise message timedOut => exact refl s
  | _ => exact attended_updatePage s _ _

lemma attended_perform (s : Stage τ) (id : Nat) (e : Effect τ) :
    s.Attended (s.perform id e).2 := by
  have seen : s.Attended (s.witness id e) := attended_of_same rfl rfl rfl rfl
  exact IsTrans.trans _ _ _ seen (attended_act (s.witness id e) id e)

end Stage

variable [Clock τ] {limit : Int} {kept : Record → Prop} {s t : Stage τ}

lemma Deed.attended (h : Deed limit kept s t) : s.Attended t := by
  cases h with
  | perform id e => exact Stage.attended_perform s id e
  | script id script => exact Stage.attended_updatePage s id _
  | element id i f => exact Stage.attended_updatePage s id _
  | arrive id url => exact Stage.attended_updatePage s id _
  | load id url => exact Stage.attended_updatePage s id _
  | limits id => exact Stage.attended_updatePage s id _
  | _ => exact Stage.attended_of_same rfl rfl rfl rfl

/-- Whatever happens in a session, the watch puts down the pages that it creates. -/
theorem Deeds.attended (h : Deeds limit kept s t) : s.Attended t := by
  induction h with
  | refl => exact refl s
  | tail _ step ih => exact IsTrans.trans _ _ _ ih step.attended

/-- Counted from a marker, the watch has put down what was created since the marker. -/
theorem Deeds.createdSince_marker (h : Deeds limit kept s t) (listening : s.contextListeners ≠ 0) :
    t.watch.createdSince s.watch.marker = s.pagesSince t := by
  have created := h.attended.created listening
  have marked : s.watch.pagesCreated.length = s.watch.marker := List.length_map ..
  have counted : ¬ (s.watch.marker : Int) < 0 := by omega
  have since : t.watch.createdSince s.watch.marker =
      t.watch.pagesCreated.drop s.watch.marker := by
    simp only [Watch.createdSince, if_neg counted, Int.toNat_natCast, List.map_drop,
      Watch.pagesCreated]
  rw [since, created, ← marked, List.drop_left]

/-- A session that has just begun: it listens to its context, its watch has not put anything
down yet, and its first page has just got the limits. -/
structure Session.Fresh (limit : Int) (session : Session) (t : Stage τ) : Prop where
  listens : t.contextListeners ≠ 0
  timeout : t.watch.timeout = limit
  created : t.watch.pagesCreated = []
  configured : ∃ s : Stage τ, t = s.configureTimeouts session.firstPage limit

omit [Clock τ] in
/-- Watching pages that are there already does not count as noticing new ones. -/
lemma Stage.foldl_watchPage (ids : List Nat) (s : Stage τ) :
    (ids.foldl watchPage s).contextListeners = s.contextListeners ∧
      (ids.foldl watchPage s).happened = s.happened ∧
      (ids.foldl watchPage s).watch = { s.watch with pages := s.watch.pages ++ ids } := by
  induction ids generalizing s with
  | nil => simp
  | cons id ids ih =>
    obtain ⟨context, happened, watch⟩ := ih (s.watchPage id)
    refine ⟨context, happened, watch.trans ?_⟩
    simp [watchPage, updatePage]

omit [Clock τ] in
lemma Stage.startWatch_fresh (s : Stage τ) (timeout : Int) :
    ({ s with watch := { timeout } }.startWatch).contextListeners = s.contextListeners + 1 ∧
      ({ s with watch := { timeout } }.startWatch).happened = s.happened ∧
      ({ s with watch := { timeout } }.startWatch).watch =
        { timeout, started := true, pages := s.contextPages } :=
  foldl_watchPage s.contextPages { s with
    watch := { timeout, started := true }, contextListeners := s.contextListeners + 1 }

omit [Clock τ] in
lemma Session.begin_fresh {page : Nat} {timeout : Int} {owns : Bool} {session : Session}
    (h : Session.begin page timeout owns s = (.done session, t)) : session.Fresh timeout t := by
  obtain ⟨listening, -, watch⟩ := Stage.startWatch_fresh s timeout
  have counted : ({ s with watch := { timeout } }.startWatch).contextListeners ≠ 0 := by omega
  have limited := congrArg Watch.timeout watch
  have empty := congrArg Watch.pagesCreated watch
  cases h
  exact ⟨counted, limited, empty, _, rfl⟩

/-- A launch that works ends with a context being opened and a session beginning in it. -/
lemma Session.launch_done {settings : Settings} {s t : Stage Float} {session : Session}
    (h : Session.launch settings s = (.done session, t)) :
    ∃ page u v, Session.openContext settings u = (.done page, v) ∧
      Session.begin page (settings .browserTimeout) true v = (.done session, t) := by
  obtain ⟨⟨⟩, u, -, h⟩ := done_of_bind h
  obtain ⟨obtained, v, -, h⟩ := done_of_bind h
  cases obtained with
  | error f =>
    obtain ⟨⟨⟩, w, -, h⟩ := done_of_bind h
    cases h
  | ok _ =>
    obtain ⟨furnished, w, opened, h⟩ := done_of_bind h
    cases furnished with
    | error f =>
      obtain ⟨⟨⟩, x, -, h⟩ := done_of_bind h
      obtain ⟨⟨⟩, y, -, h⟩ := done_of_bind h
      cases h
    | ok page => exact ⟨page, v, w, done_of_attempt opened, h⟩

theorem Session.launch_fresh {settings : Settings} {s t : Stage Float} {session : Session}
    (h : Session.launch settings s = (.done session, t)) :
    session.Fresh (settings .browserTimeout) t := by
  obtain ⟨page, u, v, -, begun⟩ := launch_done h
  exact Session.begin_fresh begun

/-- A session that has been launched listens to its context. -/
theorem Session.launch_listens {settings : Settings} {s t : Stage Float} {session : Session}
    (h : Session.launch settings s = (.done session, t)) : t.contextListeners ≠ 0 :=
  (launch_fresh h).listens

end Rehearsal
