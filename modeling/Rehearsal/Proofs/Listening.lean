import Rehearsal.Proofs.Handlers
import Rehearsal.Proofs.RunCourse

/-!
# Who listens to the browser

From the start of its session to the close a run listens once to the context and once to each
event of every page that was there or has been announced, unless the browser has forgotten the
handlers of that page. Once it is over, nobody listens to anything.
-/

namespace Rehearsal

open Play

variable {τ : Type}

section Sessions

variable [Clock τ] {limit : Int} {kept : Record → Prop} {s t : Stage τ}

open Stage

lemma Deed.listening (h : Deed limit kept s t) (listening : s.Listening) : t.Listening := by
  have changed (id : Nat) {f : Page (Effect τ) → Page (Effect τ)}
      (hf : ∀ p, (f p).listeners = p.listeners) : (s.updatePage id f).Listening :=
    listening.of_unnoticed (unnoticed_updatePage s id hf)
  cases h with
  | perform id e => exact listening.perform id e
  | script id script => exact changed id fun _ => rfl
  | element id i f => exact changed id fun _ => rfl
  | arrive id url => exact changed id fun _ => rfl
  | load id url => exact changed id fun _ => rfl
  | limits id => exact changed id fun _ => rfl
  | _ => exact listening.of_unnoticed (unnoticed_of_same rfl rfl rfl rfl rfl)

/-- A session listens until it is closed. -/
theorem Deeds.listening (h : Deeds limit kept s t) (listening : s.Listening) : t.Listening := by
  induction h with
  | refl => exact listening
  | tail _ step ih => exact step.listening ih

/-- Before a session nobody listens, whatever happens meanwhile. -/
abbrev Stage.StaysUnheard (s t : Stage τ) : Prop := s.Unheard → t.Unheard

omit [Clock τ] in
lemma Stage.staysUnheard_of_unnoticed (h : s.Unnoticed t) : s.StaysUnheard t :=
  fun unheard => unheard.of_unnoticed h

instance : Stage.Admits (@Stage.StaysUnheard τ) where
  refl _ := id
  trans _ _ _ h k unheard := k (h unheard)
  note _ _ _ _ := staysUnheard_of_unnoticed (unnoticed_of_same rfl rfl rfl rfl rfl)
  perform _ id e unheard := unheard.perform id e
  pass _ _ := staysUnheard_of_unnoticed (unnoticed_of_same rfl rfl rfl rfl rfl)
  meanwhile _ _ := staysUnheard_of_unnoticed (unnoticed_of_same rfl rfl rfl rfl rfl)
  answers _ _ := staysUnheard_of_unnoticed (unnoticed_of_same rfl rfl rfl rfl rfl)
  script s id _ := staysUnheard_of_unnoticed (unnoticed_updatePage s id fun _ => rfl)
  element s id _ _ := staysUnheard_of_unnoticed (unnoticed_updatePage s id fun _ => rfl)
  arrive s id _ := staysUnheard_of_unnoticed (unnoticed_updatePage s id fun _ => rfl)
  load s id _ := staysUnheard_of_unnoticed (unnoticed_updatePage s id fun _ => rfl)

namespace Session

variable {E : Prop}

omit [Clock τ] in
lemma service_unnoticed (c : ServiceCall) :
    Within Stage.Unnoticed E (Browser.service c : Play τ Unit) := by
  intro s
  have noted : s.Unnoticed (s.note (.service c)) := unnoticed_of_same rfl rfl rfl rfl rfl
  unfold Browser.service
  dsimp only
  split
  · exact ⟨noted, fun e => by cases e⟩
  · exact ⟨noted, fun e => by cases e⟩

omit [Clock τ] in
lemma service_unheard (c : ServiceCall) :
    Within Stage.StaysUnheard E (Browser.service c : Play τ Unit) :=
  (service_unnoticed c).mono (fun _ _ => staysUnheard_of_unnoticed) id

/-- Nobody is told of the pages that a context comes with, and nothing has happened on them. -/
lemma prepared_unheard (pages : List (Page (Effect τ))) {s : Stage τ} (h : s.Unheard) :
    (pages.foldl (fun s p => s.openPage p.url p) s).Unheard ∧
      (pages.foldl (fun s p => s.openPage p.url p) s).happened = s.happened := by
  induction pages generalizing s with
  | nil => exact ⟨h, rfl⟩
  | cons p pages ih =>
    obtain ⟨unheard, same⟩ := ih (h.openPage p.url p)
    have quiet : (s.openPage p.url p).happened = s.happened := by
      unfold Stage.openPage
      dsimp only
      rw [if_pos h.context]
    exact ⟨unheard, same.trans quiet⟩

variable {settings : Settings} {s t : Stage Float}

lemma obtain_unheard : Within Stage.StaysUnheard True (obtain settings) := by
  have connected : Within Stage.StaysUnheard True
      (Browser.service (.connect (settings .cdpUrl)) : Play Float Unit) := service_unheard _
  unfold obtain
  dsimp only
  split
  · exact service_unheard _
  · refine .bind (Endpoint.wait_deeds _ _ _) fun up => ?_
    split
    · exact .bind (.fail _) fun _ => connected
    · exact connected

/-- A new context is unheard even where the one before it was not. -/
lemma openContext_unheard {page : Nat} (h : openContext settings s = (.done page, t)) :
    t.Unheard ∧ t.happened = [] := by
  obtain ⟨⟨⟩, u, -, h⟩ := done_of_bind h
  rw [bind_done (change_run _ u)] at h
  obtain ⟨⟨⟩, v, called, h⟩ := done_of_bind h
  have bare : v.Unheard ∧ v.happened = [] := by
    have noted := (service_unnoticed (E := True) .newPage).stage called
    exact ⟨staysUnheard_of_unnoticed noted ⟨rfl, nofun⟩, noted.happened⟩
  cases h
  obtain ⟨unheard, same⟩ := prepared_unheard v.prepared bare.1
  exact ⟨unheard, same.trans bare.2⟩

lemma openContext_within : Within Stage.StaysUnheard E (openContext settings) := by
  have emptied (s : Stage Float) : s.StaysUnheard
      { s with pages := [], happened := [], contextListeners := 0 } := fun _ => ⟨rfl, nofun⟩
  refine .bind (service_unheard _) fun _ => .bind (.change emptied) fun _ => ?_
  refine .bind (service_unheard _) fun _ => .bind (.change fun s => ?_) fun _ => .pure 0
  exact fun unheard => (prepared_unheard s.prepared unheard).1

omit [Clock τ] in
lemma contextPages_updatePage (s : Stage τ) (id : Nat) {f : Page (Effect τ) → Page (Effect τ)}
    (hf : ∀ p, (f p).attached = p.attached) :
    (s.updatePage id f).contextPages = s.contextPages := by
  have count : (s.updatePage id f).pages.length = s.pages.length := List.length_modify ..
  unfold contextPages
  rw [count]
  refine List.filter_congr fun other _ => ?_
  rw [page?_updatePage]
  split
  · simp [Option.any_map, hf]
  · rfl

omit [Clock τ] in
lemma contextPages_startWatch (s : Stage τ) : s.startWatch.contextPages = s.contextPages := by
  have watched (ids : List Nat) (t : Stage τ) :
      (ids.foldl watchPage t).contextPages = t.contextPages := by
    induction ids generalizing t with
    | nil => rfl
    | cons id ids ih => exact (ih _).trans (contextPages_updatePage t id fun _ => rfl)
  unfold Stage.startWatch
  split
  · rfl
  · exact watched _ _

/-- A session that has been launched listens to its context and to the pages that are there. It has
not noticed anything yet, and nothing has happened. -/
theorem launch_listening {session : Session} (h : launch settings s = (.done session, t)) :
    t.Listening ∧ t.happened = [] ∧ t.watch =
      { timeout := settings .browserTimeout, started := true, pages := t.contextPages } := by
  obtain ⟨page, u, v, opened, begun⟩ := launch_done h
  obtain ⟨unheard, fresh⟩ := openContext_unheard opened
  have listening := unheard.startWatch fresh (settings .browserTimeout)
  obtain ⟨-, happened, watch⟩ := v.startWatch_fresh (settings .browserTimeout)
  cases begun
  refine ⟨listening.of_unnoticed (unnoticed_updatePage _ _ fun _ => rfl), ?_, watch.trans ?_⟩
  · exact happened.trans fresh
  · unfold configureTimeouts
    rw [contextPages_updatePage, contextPages_startWatch]
    · rfl
    · exact fun _ => rfl

/-- A launch that fails does so before anybody listens. -/
lemma launch_failed_unheard {f : Failure} (h : launch settings s = (.failed f, t))
    (unheard : s.Unheard) : t.Unheard := by
  have stopped (g : Failure) : Within Stage.StaysUnheard True (do
      Browser.service .stop
      Play.fail g : Play Float Session) :=
    .bind (service_unheard _) fun _ => .fail g
  have closed : Within Stage.StaysUnheard True
      (ignoreDriver (Browser.service .closeBrowser) : Play Float Unit) := by
    refine .orElse (service_unheard _) fun g => ?_
    split
    · exact .pure ()
    · exact .fail _
  rcases failed_of_bind h with h | ⟨⟨⟩, u, started, h⟩
  · exact (service_unheard (E := True) _).stage h unheard
  have driven := (service_unheard (E := True) _).stage started unheard
  rcases failed_of_bind h with h | ⟨obtained, v, ho, h⟩
  · exact (attempt_ne_failed _ _ _ _ h).elim
  have reached := obtain_unheard.attempt.stage ho driven
  cases obtained with
  | error g => exact (stopped g).stage h reached
  | ok _ =>
    rcases failed_of_bind h with h | ⟨furnished, w, hw, h⟩
    · exact (attempt_ne_failed _ _ _ _ h).elim
    have opened := (openContext_within (E := True)).attempt.stage hw reached
    cases furnished with
    | error g =>
      have given : Within Stage.StaysUnheard True (do
          ignoreDriver (Browser.service .closeBrowser)
          Browser.service .stop
          Play.fail g : Play Float Session) := closed.bind fun _ => stopped g
      exact given.stage h opened
    | ok page => cases h

/-- The close of a session that has been launched ends its watch. -/
lemma close_unnoticed {session closed : Session} {u v : Stage Float}
    (h : launch settings s = (.done session, t)) (hc : close session u = (.done closed, v)) :
    u.stopWatch.Unnoticed v := by
  have quiet (c : ServiceCall) :
      Within Stage.Unnoticed True (quietly (Browser.service c) : Play Float Unit) :=
    .orElse (service_unnoticed c) fun _ => .pure ()
  have rest : Within Stage.Unnoticed True (do
      quietly (Browser.service .closeContext)
      if session.ownsBrowser then
        quietly (Browser.service .closeBrowser)
        quietly (Browser.service .stop) : Play Float Unit) := by
    refine .bind (quiet _) fun _ => ?_
    split
    · exact .bind (quiet _) fun _ => quiet _
    · exact .pure ()
  obtain ⟨page, x, y, -, begun⟩ := launch_done h
  have fresh : session.closed = false := by
    cases begun
    rfl
  unfold close at hc
  rw [fresh] at hc
  obtain ⟨⟨⟩, w, released, hc⟩ := done_of_bind hc
  cases hc
  unfold release at released
  rw [bind_done (change_run _ u)] at released
  exact rest.stage released

end Session

end Sessions

namespace Run

variable {settings : Settings} {url : Value}

/-- Between its launch and its close the stage of a session changes by deeds. -/
lemma inSession_stage (settings : Settings) (session : Session) (url : Value)
    (actions : List Action) (t : Stage Float) :
    Deeds (settings .browserTimeout) anyRecord t (inSession settings session url actions t).2 :=
  (inSession_deeds (E := True) settings session url actions (fun _ _ => trivial) t).1

lemma settled_stage {α : Type} (p : Play Float (Except RunCause α)) (s : Stage Float) :
    (settled p s).2 = (p s).2 := by
  unfold settled
  rw [bind_run, Play.attempt]
  rcases p s with ⟨_ | _ | _, t⟩ <;> rfl

/-- After a run that ends nobody listens, even if the browser has forgotten handlers that the watch
then tries to remove. -/
lemma ofGiven_unheard {g : Given} {s t : Stage Float} (unheard : s.Unheard)
    {r : Except RunFailure RunResult} (h : ofGiven settings url g s = (.done r, t)) :
    t.Unheard := by
  have fresh : (opened s).Unheard := ⟨unheard.context, unheard.pages⟩
  rcases hg : g.read with cause | actions
  · cases (ofGiven_unread settings url hg s).symm.trans h
    exact fresh
  · rcases ran settings url s hg with
      ⟨f, u, hl, calls, called, ended, hr⟩ |
      ⟨session, u, hl, calls, called, ahead, result, v, hs, w, hc, closing, hr⟩ |
      ⟨u, hr, -⟩
    · cases hr.symm.trans h
      exact Session.launch_failed_unheard hl fresh
    · cases hr.symm.trans h
      have left : (inSession settings session url actions u).2 = v :=
        (settled_stage _ u).symm.trans (congrArg Prod.snd hs)
      have deeds := inSession_stage settings session url actions u
      rw [left] at deeds
      have listening := deeds.listening (Session.launch_listening hl).1
      exact listening.stopWatch.of_unnoticed (Session.close_unnoticed hl hc)
    · cases hr.symm.trans h

/-- While a session lasts the context has one handler, and every page that was there when the
session began or has been announced since has one for each event that is watched, unless the browser
has forgotten those of the page. Nobody listens to any other page. -/
structure Handled (t u : Stage Float) : Prop where
  context : u.contextListeners = 1
  pages : ∀ id ∈ t.contextPages ++ t.pagesSince u, u.forgot id = false →
    ∃ p, u.page? id = some p ∧ p.listeners = Stage.watchedEvents
  others : ∀ id ∉ t.contextPages ++ t.pagesSince u, u.heard id = []

lemma handled {session : Session} {s t u : Stage Float}
    (h : Session.launch settings s = (.done session, t))
    (hd : Deeds (settings .browserTimeout) anyRecord t u) : Handled t u := by
  obtain ⟨launched, -, watch⟩ := Session.launch_listening h
  have listening := hd.listening launched
  have watched : u.watch.pages = t.contextPages ++ t.pagesSince u := by
    rw [hd.attended.watched (Session.launch_listens h), watch]
  refine ⟨listening.context, fun id hid known => ?_, fun id hid => ?_⟩
  · rw [← watched] at hid
    have there : id < u.pages.length := listening.there id hid
    have heard := listening.heard id
    rw [if_pos ⟨hid, known⟩] at heard
    refine ⟨u.pages[id], List.getElem?_eq_getElem there, ?_⟩
    simpa [Stage.heard, Stage.page?, there] using heard
  · rw [← watched] at hid
    rw [listening.heard id, if_neg fun both => hid both.1]

/-- The handlers of a run. From the launch of its session to the close, at each of the stages that
its deeds lead to, every one of them is registered once; however the run ends, none is left. -/
theorem handlers_balanced (settings : Settings) (url : Value) (g : Given) (s : Stage Float)
    (unheard : s.Unheard) :
    (∀ session t, Session.launch settings (opened s) = (.done session, t) →
      (∀ u, Deeds (settings .browserTimeout) anyRecord t u → Handled t u) ∧
      ∀ actions, Deeds (settings .browserTimeout) anyRecord t
        (inSession settings session url actions t).2) ∧
    ∀ r u, ofGiven settings url g s = (.done r, u) → u.Unheard := by
  refine ⟨fun session t launched => ⟨fun u deeds => handled launched deeds, fun actions => ?_⟩,
    fun r u ended => ofGiven_unheard unheard ended⟩
  exact inSession_stage settings session url actions t

/-- The browser forgets the handlers of the first page after a second one has come up: the second
page is still listened to during the session, and after the run nobody listens. -/
theorem handlers_balanced_forgotten :
    (∃ session t, Session.launch Settings.standard
        { now := 0, prepared := [{ script :=
          [("goto", [[.openPage (.text "https://y") {}, .dropListeners]])] }] } = (.done session, t) ∧
      let u := (inSession Settings.standard session (.text "https://x") [.switchToMain] t).2
      Handled t u ∧ t.contextPages ++ t.pagesSince u = [0, 1] ∧
        u.forgot 0 = true ∧ u.forgot 1 = false) ∧
    ∃ r u, ofGiven Settings.standard (.text "https://x") (.items [.ready .switchToMain])
        { now := 0, prepared := [{ script :=
          [("goto", [[.openPage (.text "https://y") {}, .dropListeners]])] }] } = (.done r, u) ∧
      u.Unheard ∧ u.pages.length = 2 := by
  let s : Stage Float := { now := 0, prepared := [{ script :=
    [("goto", [[.openPage (.text "https://y") {}, .dropListeners]])] }] }
  have unheard : s.Unheard := ⟨rfl, nofun⟩
  obtain ⟨during, after⟩ := handlers_balanced Settings.standard (.text "https://x")
    (.items [.ready .switchToMain]) s unheard
  have shown : (Session.launch Settings.standard s).1.value?.map (fun session =>
      let t := (Session.launch Settings.standard s).2
      let u := (inSession Settings.standard session (.text "https://x") [.switchToMain] t).2
      (t.contextPages ++ t.pagesSince u, u.forgot 0, u.forgot 1)) =
        some ([0, 1], true, false) := by decide +kernel
  have left : (ofGiven Settings.standard (.text "https://x")
        (.items [.ready .switchToMain]) s).1.value?.isSome ∧
      (ofGiven Settings.standard (.text "https://x")
        (.items [.ready .switchToMain]) s).2.pages.length = 2 := by
    decide +kernel
  constructor
  · rcases h : Session.launch Settings.standard s with ⟨session | f | _, t⟩ <;> rw [h] at shown
    · obtain ⟨handled, deeds⟩ := during session t h
      simp only [Ending.value?, Option.map_some, Option.some.injEq, Prod.mk.injEq] at shown
      exact ⟨session, t, rfl, handled _ (deeds _), shown⟩
    · cases shown
    · cases shown
  · rcases h : ofGiven Settings.standard (.text "https://x") (.items [.ready .switchToMain]) s with
      ⟨r | f | _, u⟩ <;> rw [h] at left
    · exact ⟨r, u, rfl, after r u h, left.2⟩
    · cases left.1
    · cases left.1

end Run

end Rehearsal
