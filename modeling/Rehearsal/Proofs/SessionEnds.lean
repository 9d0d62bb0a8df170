import Rehearsal.Proofs.Waiting

/-!
# The ends of a session

Which calls a launch makes and a close makes, in order, depending on the calls that are
to fail. A launch that fails has ended whatever it had begun; one that works leaves all
of it to the close. Neither touches the ledger.
-/

namespace Rehearsal

open Play

/-- A stage that is left after calls, with the faults, the ledger and the patience it was
found with. -/
structure Stage.Called {τ : Type} (calls : List (Call τ)) (s t : Stage τ) : Prop where
  faults : t.faults = s.faults
  ledger : t.ledger = s.ledger
  patience : t.patience = s.patience
  trace : t.trace = s.trace ++ calls

namespace Stage.Called

section

variable {τ : Type} {s t u : Stage τ} {calls more : List (Call τ)}

lemma of_same (hf : t.faults = s.faults) (hl : t.ledger = s.ledger)
    (hp : t.patience = s.patience) (hj : t.journal = s.journal) : Called [] s t :=
  ⟨hf, hl, hp, by rw [Stage.trace, Stage.trace, hj, List.append_nil]⟩

lemma note (s : Stage τ) (c : Call τ) : Called [c] s (s.note c) :=
  ⟨rfl, rfl, rfl, List.reverse_cons⟩

lemma trans (h : Called calls s t) (k : Called more t u) : Called (calls ++ more) s u :=
  ⟨k.faults.trans h.faults, k.ledger.trans h.ledger, k.patience.trans h.patience,
    by rw [k.trace, h.trace, List.append_assoc]⟩

lemma onward (h : Called calls s t) : s.Onward t := by
  refine ⟨h.patience, ?_⟩
  have counted (u : Stage τ) : u.pauses = u.trace.countP Call.isPause :=
    (List.countP_reverse ..).symm
  rw [counted, counted, h.trace, List.countP_append]
  exact Nat.le_add_right _ _

lemma foldl {α : Type} {f : Stage τ → α → Stage τ} (hf : ∀ s a, Called [] s (f s a))
    (as : List α) (s : Stage τ) : Called [] s (as.foldl f s) := by
  induction as generalizing s with
  | nil => exact of_same rfl rfl rfl rfl
  | cons a as ih => exact (hf s a).trans (ih _)

end

variable {τ : Type} [Clock τ] (s : Stage τ)

omit [Clock τ] in
lemma watchPage (id : Nat) : Called [] s (s.watchPage id) := of_same rfl rfl rfl rfl

omit [Clock τ] in
lemma unwatchPage (id : Nat) : Called [] s (s.unwatchPage id) := of_same rfl rfl rfl rfl

omit [Clock τ] in
lemma startWatch : Called [] s s.startWatch := by
  unfold Stage.startWatch
  split
  · exact of_same rfl rfl rfl rfl
  · have watched := foldl watchPage s.contextPages { s with
      watch := { s.watch with started := true }, contextListeners := s.contextListeners + 1 }
    exact ⟨watched.faults, watched.ledger, watched.patience, watched.trace⟩

omit [Clock τ] in
lemma stopWatch : Called [] s s.stopWatch := by
  unfold Stage.stopWatch
  split
  · exact of_same rfl rfl rfl rfl
  · have unwatched := foldl unwatchPage s.watch.pages
      { s with contextListeners := s.contextListeners - 1 }
    exact ⟨unwatched.faults, unwatched.ledger, unwatched.patience, unwatched.trace⟩

lemma openPage (url : Value) (page : Page (Effect τ)) : Called [] s (s.openPage url page) := by
  unfold Stage.openPage
  dsimp only
  split <;> exact of_same rfl rfl rfl rfl

end Stage.Called

/-- Deeds that put no record down make no service calls. -/
lemma Deeds.called {τ : Type} [Clock τ] {limit : Int} {s t : Stage τ}
    (h : Deeds limit noRecord s t) :
    ∃ calls, Stage.Called calls s t ∧ ∀ c ∈ calls, c.isService = false := by
  obtain ⟨calls, hj, hc⟩ := h.journal
  refine ⟨calls.reverse, ⟨h.faults, h.ledger, h.patience, ?_⟩,
    fun c hmem => hc c (List.mem_reverse.mp hmem)⟩
  rw [Stage.trace, Stage.trace, hj, List.reverse_append]

namespace Browser

section

variable {τ : Type} [Clock τ] {s : Stage τ}

omit [Clock τ] in
lemma service_done {c : ServiceCall} (h : s.faults.lookup c.name = none) :
    service c s = (.done (), s.note (.service c)) := by
  unfold service
  dsimp only
  split
  · next hm => exact absurd (h.symm.trans hm) (by simp)
  · rfl

omit [Clock τ] in
lemma service_failed {c : ServiceCall} {message : String}
    (h : s.faults.lookup c.name = some message) :
    service c s = (.failed (.driver { message }), s.note (.service c)) := by
  unfold service
  dsimp only
  split
  · next hm => rw [Option.some.inj (h.symm.trans hm)]
  · next hm => exact absurd (h.symm.trans hm) (by simp)

end

end Browser

/-- One of the two ways to come by a browser. -/
def ServiceCall.obtains : ServiceCall → Bool
  | .launch .. | .connect _ => true
  | _ => false

namespace Session

variable (settings : Settings) (s : Stage Float)

/-- How it goes to come by a browser. An endpoint is probed before it is connected to. -/
inductive Obtained : Prop
  | done (probe : List (Call Float)) (hq : ∀ c ∈ probe, c.isService = false) (c : ServiceCall)
      (hc : c.obtains) (hf : s.faults.lookup c.name = none) (t : Stage Float)
      (h : obtain settings s = (.done (), t))
      (called : Stage.Called (probe ++ [.service c]) s t)
  | unreachable (probe : List (Call Float)) (hq : ∀ c ∈ probe, c.isService = false) (f : Failure)
      (t : Stage Float) (h : obtain settings s = (.failed f, t)) (called : Stage.Called probe s t)
  | refused (probe : List (Call Float)) (hq : ∀ c ∈ probe, c.isService = false) (c : ServiceCall)
      (hc : c.obtains) (hf : s.faults.lookup c.name ≠ none) (f : Failure) (t : Stage Float)
      (h : obtain settings s = (.failed f, t))
      (called : Stage.Called (probe ++ [.service c]) s t)
  | endless (t : Stage Float) (h : obtain settings s = (.endless, t))
      (remote : (settings .cdpUrl : String) ≠ "") (waited : s.Exhausted t)

variable {settings s}

lemma Obtained.of_call {probe : List (Call Float)} {t : Stage Float} {c : ServiceCall}
    (hq : ∀ c ∈ probe, c.isService = false) (hc : c.obtains) (hp : Stage.Called probe s t)
    (h : obtain settings s = Browser.service c t) : Obtained settings s := by
  have called := hp.trans (.note t (.service c))
  rcases hf : s.faults.lookup c.name with _ | message
  · rw [Browser.service_done (hp.faults ▸ hf)] at h
    exact .done probe hq c hc hf _ h called
  · rw [Browser.service_failed (hp.faults ▸ hf)] at h
    exact .refused probe hq c hc (by simp [hf]) _ _ h called

variable (settings s)

lemma obtained : Obtained settings s := by
  by_cases own : (settings .cdpUrl : String) = ""
  · have none : ∀ c ∈ ([] : List (Call Float)), c.isService = false := by simp
    refine .of_call (c := .launch (settings .headless) (settings .launchArgs)) none rfl
      (.of_same rfl rfl rfl rfl) ?_
    unfold obtain
    rw [if_pos own]
  · have probing : Within (Deeds 0 noRecord) True
        (Endpoint.wait (settings .cdpUrl) (6 : Float) (0.25 : Float)) :=
      Endpoint.wait_deeds _ _ _
    have course : obtain settings s = (do
        if !(← Endpoint.wait (settings .cdpUrl) (6 : Float) (0.25 : Float)) then
          Play.fail (.engine (.general ("CDP endpoint " ++ settings .cdpUrl ++ " is not responding")
            "BROWSER_UNAVAILABLE" []))
        Browser.service (.connect (settings .cdpUrl)) : Play Float Unit) s := by
      unfold obtain
      rw [if_neg own]
    rcases h : Endpoint.wait (settings .cdpUrl) (6 : Float) (0.25 : Float) s with ⟨up | f | _, t⟩
    · obtain ⟨probe, called, hq⟩ := (probing.stage h).called
      rw [bind_done h] at course
      cases up with
      | true => exact .of_call hq rfl called course
      | false => exact .unreachable probe hq _ t course called
    · obtain ⟨probe, called, hq⟩ := (probing.stage h).called
      exact .unreachable probe hq f t (course.trans (bind_failed h)) called
    · have waited := (Endpoint.wait_waits (settings .cdpUrl) (6 : Float) (0.25 : Float) s).2
        (congrArg Prod.fst h)
      rw [h] at waited
      exact .endless t (course.trans (bind_endless h)) own waited

/-- How it goes to open a context with a page in it. -/
inductive Furnished : Prop
  | done (hc : s.faults.lookup (ServiceCall.newContext (contextOptions settings)).name = none)
      (hp : s.faults.lookup ServiceCall.newPage.name = none) (page : Nat) (t : Stage Float)
      (h : openContext settings s = (.done page, t))
      (called : Stage.Called
        [.service (.newContext (contextOptions settings)), .service .newPage] s t)
  | contextless
      (hc : s.faults.lookup (ServiceCall.newContext (contextOptions settings)).name ≠ none)
      (f : Failure) (t : Stage Float) (h : openContext settings s = (.failed f, t))
      (called : Stage.Called [.service (.newContext (contextOptions settings))] s t)
  | pageless (hc : s.faults.lookup (ServiceCall.newContext (contextOptions settings)).name = none)
      (hp : s.faults.lookup ServiceCall.newPage.name ≠ none) (f : Failure) (t : Stage Float)
      (h : openContext settings s = (.failed f, t))
      (called : Stage.Called
        [.service (.newContext (contextOptions settings)), .service .newPage] s t)

lemma furnished : Furnished settings s := by
  have contextCalled := Stage.Called.note s (.service (.newContext (contextOptions settings)))
  rcases hc : s.faults.lookup (ServiceCall.newContext (contextOptions settings)).name with
    _ | message
  · let u := { s.note (.service (.newContext (contextOptions settings))) with
      pages := [], happened := [], contextListeners := 0 }
    have course : openContext settings s = Browser.newPage u :=
      bind_done (Browser.service_done hc)
    have pageCalled : Stage.Called [.service (.newContext (contextOptions settings)),
        .service .newPage] s (u.note (.service .newPage)) :=
      ⟨rfl, rfl, rfl, (contextCalled.trans (.note _ (.service .newPage))).trace⟩
    rcases hp : s.faults.lookup ServiceCall.newPage.name with _ | message
    · have opened := pageCalled.trans
        (.foldl (fun t (p : Page (Effect Float)) => .openPage t p.url p) u.prepared _)
      exact .done hc hp 0 _ (course.trans (bind_done (Browser.service_done (s := u) hp))) opened
    · exact .pageless hc (by simp [hp]) _ _
        (course.trans (bind_failed (Browser.service_failed (s := u) hp))) pageCalled
  · exact .contextless (by simp [hc]) _ _ (bind_failed (Browser.service_failed hc)) contextCalled

/-- The calls of a session from its first call for a browser on, by how far it came. -/
inductive Remainder (faults : List (String × String)) : List (Call Float) → Prop
  | unreachable : Remainder faults [.service .stop]
  | refused (c : ServiceCall) (ho : c.obtains) (hf : faults.lookup c.name ≠ none) :
      Remainder faults [.service c, .service .stop]
  | contextless (c : ServiceCall) (ho : c.obtains) (hf : faults.lookup c.name = none)
      (o : ContextOptions) (hc : faults.lookup (ServiceCall.newContext o).name ≠ none) :
      Remainder faults
        [.service c, .service (.newContext o), .service .closeBrowser, .service .stop]
  | pageless (c : ServiceCall) (ho : c.obtains) (hf : faults.lookup c.name = none)
      (o : ContextOptions) (hc : faults.lookup (ServiceCall.newContext o).name = none)
      (hp : faults.lookup ServiceCall.newPage.name ≠ none) :
      Remainder faults [.service c, .service (.newContext o), .service .newPage,
        .service .closeBrowser, .service .stop]
  | closed (c : ServiceCall) (ho : c.obtains) (hf : faults.lookup c.name = none)
      (o : ContextOptions) (hc : faults.lookup (ServiceCall.newContext o).name = none)
      (hp : faults.lookup ServiceCall.newPage.name = none) (during : List (Call Float))
      (hd : ∀ c ∈ during, c.isService = false) :
      Remainder faults (.service c :: .service (.newContext o) :: .service .newPage ::
        (during ++ [.service .closeContext, .service .closeBrowser, .service .stop]))

/-- All calls of a session that is over. -/
inductive Teardown (faults : List (String × String)) : List (Call Float) → Prop
  | unstarted (hs : faults.lookup ServiceCall.start.name ≠ none) :
      Teardown faults [.service .start]
  | started (hs : faults.lookup ServiceCall.start.name = none) (probe : List (Call Float))
      (hq : ∀ c ∈ probe, c.isService = false) (rest : List (Call Float))
      (h : Remainder faults rest) : Teardown faults (.service .start :: (probe ++ rest))

/-- How a launch goes. The calls of one that works are those of a session yet to be closed. -/
inductive Launched : Prop
  | done (session : Session) (owned : session.ownsBrowser = true) (fresh : session.closed = false)
      (t : Stage Float) (h : launch settings s = (.done session, t)) (calls : List (Call Float))
      (called : Stage.Called calls s t)
      (ahead : ∀ during : List (Call Float), (∀ c ∈ during, c.isService = false) →
        Teardown s.faults (calls ++ during ++
          [.service .closeContext, .service .closeBrowser, .service .stop]))
  | failed (f : Failure) (t : Stage Float) (h : launch settings s = (.failed f, t))
      (calls : List (Call Float)) (called : Stage.Called calls s t)
      (ended : Teardown s.faults calls)
  | endless (t : Stage Float) (h : launch settings s = (.endless, t))
      (remote : (settings .cdpUrl : String) ≠ "") (waited : s.Exhausted t)

lemma ignoreDriver_service (c : ServiceCall) (s : Stage Float) :
    ignoreDriver (Browser.service c) s = (.done (), s.note (.service c)) := by
  unfold ignoreDriver Play.orElse
  rcases h : s.faults.lookup c.name with _ | message
  · rw [bind_done (attempt_done (Browser.service_done h))]
    rfl
  · rw [bind_done (attempt_failed (Browser.service_failed h))]
    rfl

/-- Giving up stops the driver, and fails even where that does. -/
lemma giveUp (f : Failure) (s : Stage Float) :
    ∃ g, (do Browser.service .stop; Play.fail f : Play Float Session) s =
      (.failed g, s.note (.service .stop)) := by
  rcases h : s.faults.lookup ServiceCall.stop.name with _ | message
  · exact ⟨f, bind_done (Browser.service_done h)⟩
  · exact ⟨_, bind_failed (Browser.service_failed h)⟩

lemma begin_called (page : Nat) (timeout : Int) (s : Stage Float) :
    ∃ t, begin page timeout true s = (.done { firstPage := page, timeout }, t) ∧
      Stage.Called [] s t := by
  have watched := Stage.Called.startWatch { s with watch := { timeout } }
  exact ⟨_, rfl, watched.faults, watched.ledger, watched.patience, watched.trace⟩

/-- The calls of a launch whose driver has been started. -/
lemma launched_started (hs : s.faults.lookup ServiceCall.start.name = none) :
    Launched settings s := by
  have begun := Stage.Called.note s (.service .start)
  have start : Browser.service .start s = (.done (), s.note (.service .start)) :=
    Browser.service_done hs
  rcases obtained settings (s.note (.service .start)) with
    ⟨probe, hq, c, ho, hf, t, h, called⟩ | ⟨probe, hq, f, t, h, called⟩ |
    ⟨probe, hq, c, ho, hf, f, t, h, called⟩ | ⟨t, h, remote, waited⟩
  · have obtainedCalls := begun.trans called
    have abandoned {f : Failure} {u : Stage Float} (hu : openContext settings t = (.failed f, u)) :
        ∃ g, launch settings s =
          (.failed g, (u.note (.service .closeBrowser)).note (.service .stop)) := by
      obtain ⟨g, hg⟩ := giveUp f (u.note (.service .closeBrowser))
      exact ⟨g, (bind_done start).trans ((bind_done (attempt_done h)).trans
        ((bind_done (attempt_failed hu)).trans
          ((bind_done (ignoreDriver_service .closeBrowser u)).trans hg)))⟩
    have cleared {u : Stage Float} {calls : List (Call Float)} (hu : Stage.Called calls s u) :=
      (hu.trans (.note u (.service .closeBrowser))).trans (.note _ (.service .stop))
    rcases furnished settings t with
      ⟨hc, hp, page, u, hu, calledU⟩ | ⟨hc, f, u, hu, calledU⟩ | ⟨hc, hp, f, u, hu, calledU⟩
    · rw [obtainedCalls.faults] at hc hp
      obtain ⟨v, hv, calledV⟩ := begin_called page (settings .browserTimeout) u
      refine .done { firstPage := page, timeout := settings .browserTimeout } rfl rfl v
        ((bind_done start).trans ((bind_done (attempt_done h)).trans
          ((bind_done (attempt_done hu)).trans hv))) _
        ((obtainedCalls.trans calledU).trans calledV) fun during hd => ?_
      have ended := Teardown.started hs probe hq _ (.closed c ho hf _ hc hp during hd)
      simpa using ended
    · rw [obtainedCalls.faults] at hc
      obtain ⟨g, hg⟩ := abandoned hu
      refine .failed g _ hg _ (cleared (obtainedCalls.trans calledU)) ?_
      have ended := Teardown.started hs probe hq _ (.contextless c ho hf _ hc)
      simpa using ended
    · rw [obtainedCalls.faults] at hc hp
      obtain ⟨g, hg⟩ := abandoned hu
      refine .failed g _ hg _ (cleared (obtainedCalls.trans calledU)) ?_
      have ended := Teardown.started hs probe hq _ (.pageless c ho hf _ hc hp)
      simpa using ended
  · obtain ⟨g, hg⟩ := giveUp f t
    refine .failed g _ ((bind_done start).trans ((bind_done (attempt_failed h)).trans hg)) _
      ((begun.trans called).trans (.note _ (.service .stop))) ?_
    have ended := Teardown.started hs probe hq _ .unreachable
    simpa using ended
  · obtain ⟨g, hg⟩ := giveUp f t
    refine .failed g _ ((bind_done start).trans ((bind_done (attempt_failed h)).trans hg)) _
      ((begun.trans called).trans (.note _ (.service .stop))) ?_
    have ended := Teardown.started hs probe hq _ (.refused c ho hf)
    simpa using ended
  · exact .endless t ((bind_done start).trans (bind_endless (attempt_endless h))) remote
      (.of_onward begun.onward waited)

theorem launched : Launched settings s := by
  rcases hs : s.faults.lookup ServiceCall.start.name with _ | message
  · exact launched_started settings s hs
  · exact .failed _ _ (bind_failed (Browser.service_failed hs)) _ (.note s (.service .start))
      (.unstarted (by simp [hs]))

lemma quietly_service (c : ServiceCall) (s : Stage Float) :
    quietly (Browser.service c) s = (.done (), s.note (.service c)) := by
  unfold quietly Play.orElse
  rcases h : s.faults.lookup c.name with _ | message
  · rw [bind_done (attempt_done (Browser.service_done h))]
    rfl
  · rw [bind_done (attempt_failed (Browser.service_failed h))]
    rfl

/-- Closing makes its three calls and raises nothing, whichever of them fail. -/
theorem closing {session : Session} (owned : session.ownsBrowser = true)
    (fresh : session.closed = false) (s : Stage Float) :
    ∃ t, close session s = (.done { session with closed := true }, t) ∧
      Stage.Called [.service .closeContext, .service .closeBrowser, .service .stop] s t := by
  have released : release session s = (.done (),
      ((s.stopWatch.note (.service .closeContext)).note (.service .closeBrowser)).note
        (.service .stop)) := by
    unfold release
    rw [owned, bind_done (change_run _ s), bind_done (quietly_service .closeContext _)]
    exact (bind_done (quietly_service .closeBrowser _)).trans (quietly_service .stop _)
  refine ⟨_, ?_, (((Stage.Called.stopWatch s).trans (.note _ _)).trans (.note _ _)).trans
    (.note _ _)⟩
  unfold close
  rw [fresh]
  exact bind_done released

end Session

end Rehearsal
