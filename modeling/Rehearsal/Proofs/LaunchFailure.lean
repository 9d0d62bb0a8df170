import Rehearsal.Proofs.RunCourse

/-!
# What a failed launch tells

Once the driver runs, a launch comes by a browser and opens a context in it. The first call
that fails ends this, and what has been begun is given back: the browser is closed, which may
fail unnoticed, and the driver is stopped. Where stopping fails too, that is the failure that
is told, by the launch and by the run around it, and the first one is lost.
-/

namespace Rehearsal

open Play

lemma Browser.failed_of_service {c : ServiceCall} {s u : Stage Float} {f : Failure}
    (h : Browser.service c s = (.failed f, u)) :
    ∃ message, s.faults.lookup c.name = some message ∧ f = .driver { message } ∧
      u = s.note (.service c) := by
  rcases fault : s.faults.lookup c.name with _ | message
  · cases (Browser.service_done fault).symm.trans h
  · cases (Browser.service_failed fault).symm.trans h
    exact ⟨message, rfl, rfl, rfl⟩

lemma Browser.done_of_service {c : ServiceCall} {s u : Stage Float}
    (h : Browser.service c s = (.done (), u)) :
    s.faults.lookup c.name = none ∧ u = s.note (.service c) := by
  rcases fault : s.faults.lookup c.name with _ | message
  · cases (Browser.service_done fault).symm.trans h
    exact ⟨rfl, rfl⟩
  · cases (Browser.service_failed fault).symm.trans h

namespace Session

variable (settings : Settings)

/-- What a launch does once the driver runs, if nothing is given back where it fails. -/
def furnish : Play Float Nat := do
  obtain settings
  openContext settings

/-- How a launch asks whether its endpoint answers. -/
abbrev probe : Play Float Bool := Endpoint.wait (settings .cdpUrl) (6 : Float) (0.25 : Float)

/-- The failure of a launch whose endpoint does not answer. -/
def unavailable : Failure :=
  .engine (.general ("CDP endpoint " ++ settings .cdpUrl ++ " is not responding")
    "BROWSER_UNAVAILABLE" [])

/-- The first thing that goes wrong while a session is furnished, and the stage after it. -/
inductive Caused (s : Stage Float) : Failure → Stage Float → Prop
  | unanswerable {f : Failure} {u : Stage Float} (remote : (settings .cdpUrl : String) ≠ "")
      (h : probe settings s = (.failed f, u)) : Caused s f u
  | silent {u : Stage Float} (remote : (settings .cdpUrl : String) ≠ "")
      (h : probe settings s = (.done false, u)) : Caused s (unavailable settings) u
  | refused {calls : List (Call Float)} {t : Stage Float} (called : Stage.Called calls s t)
      (worked : ∀ d, .service d ∈ calls → s.faults.lookup d.name = none) {c : ServiceCall}
      {message : String} (fault : s.faults.lookup c.name = some message) :
      Caused s (.driver { message }) (t.note (.service c))

variable {settings} {s t u : Stage Float} {f : Failure}

lemma Caused.of_service {calls : List (Call Float)} (called : Stage.Called calls s t)
    (worked : ∀ d, .service d ∈ calls → s.faults.lookup d.name = none) {c : ServiceCall}
    (h : Browser.service c t = (.failed f, u)) : Caused settings s f u := by
  obtain ⟨message, fault, rfl, rfl⟩ := Browser.failed_of_service h
  exact .refused called worked (called.faults ▸ fault)

lemma obtain_own (own : (settings .cdpUrl : String) = "") :
    obtain settings =
      Browser.service (.launch (settings .headless) (settings .launchArgs)) := by
  unfold obtain
  rw [if_pos own]

lemma obtain_remote (remote : (settings .cdpUrl : String) ≠ "") :
    obtain settings = (do
      if !(← probe settings) then Play.fail (unavailable settings)
      Browser.service (.connect (settings .cdpUrl))) := by
  unfold obtain
  rw [if_neg remote]
  rfl

/-- A probe makes no service calls. -/
lemma probe_called (settings : Settings) (s : Stage Float) : ∃ calls,
    Stage.Called calls s (probe settings s).2 ∧ ∀ c ∈ calls, c.isService = false :=
  (Endpoint.wait_deeds (R := Deeds 0 noRecord) _ _ _ s).1.called

lemma obtain_caused (h : obtain settings s = (.failed f, u)) : Caused settings s f u := by
  by_cases own : (settings .cdpUrl : String) = ""
  · rw [obtain_own own] at h
    exact .of_service (.of_same rfl rfl rfl rfl) (by simp) h
  · obtain ⟨calls, called, plain⟩ := probe_called settings s
    rw [obtain_remote own] at h
    rcases hp : probe settings s with ⟨up | g | _, t⟩
    · rw [bind_done hp] at h
      rw [hp] at called
      cases up with
      | true =>
        exact .of_service called (fun d hd => absurd (plain _ hd) (by simp [Call.isService])) h
      | false =>
        cases h
        exact .silent own hp
    · cases (bind_failed hp).symm.trans h
      exact .unanswerable own hp
    · cases (bind_endless hp).symm.trans h

lemma openContext_caused {calls : List (Call Float)} (called : Stage.Called calls s t)
    (worked : ∀ d, .service d ∈ calls → s.faults.lookup d.name = none)
    (h : openContext settings t = (.failed f, u)) : Caused settings s f u := by
  rcases failed_of_bind h with h | ⟨⟨⟩, v, hv, h⟩
  · exact .of_service called worked h
  obtain ⟨context, rfl⟩ := Browser.done_of_service hv
  let call : Call Float := .service (.newContext (contextOptions settings))
  let blank : Stage Float := { t.note call with
    pages := [], happened := [], contextListeners := 0 }
  have opened : Stage.Called (calls ++ [call]) s blank :=
    ⟨called.faults, called.ledger, called.patience, (called.trans (.note _ _)).trace⟩
  have before : ∀ d, .service d ∈ calls ++ [call] → s.faults.lookup d.name = none := by
    intro d hd
    rcases List.mem_append.mp hd with hd | hd
    · exact worked d hd
    · have same : Call.service d = .service (.newContext (contextOptions settings)) :=
        List.mem_singleton.mp hd
      cases same
      exact called.faults ▸ context
  have page : Browser.newPage blank = (.failed f, u) := h
  rcases failed_of_bind page with h | ⟨⟨⟩, w, -, h⟩
  · exact .of_service opened before h
  · cases h

lemma furnish_caused (h : furnish settings s = (.failed f, u)) : Caused settings s f u := by
  rcases failed_of_bind h with h | ⟨⟨⟩, t, ho, h⟩
  · exact obtain_caused h
  rcases obtained settings s with
    ⟨asked, plain, c, -, hc, t', ho', called⟩ | ⟨_, _, _, _, ho', _⟩ |
    ⟨_, _, _, _, _, _, _, ho', _⟩ | ⟨_, ho', _, _⟩
  · cases ho.symm.trans ho'
    refine openContext_caused called (fun d hd => ?_) h
    rcases List.mem_append.mp hd with hd | hd
    · cases plain _ hd
    · cases List.mem_singleton.mp hd
      exact hc
  · cases ho.symm.trans ho'
  · cases ho.symm.trans ho'
  · cases ho.symm.trans ho'

lemma Caused.called (h : Caused settings s f u) : ∃ calls, Stage.Called calls s u := by
  cases h with
  | unanswerable remote h =>
    obtain ⟨calls, called, -⟩ := probe_called settings s
    rw [h] at called
    exact ⟨calls, called⟩
  | silent remote h =>
    obtain ⟨calls, called, -⟩ := probe_called settings s
    rw [h] at called
    exact ⟨calls, called⟩
  | refused called worked fault => exact ⟨_, called.trans (.note _ _)⟩

/-- The failure that is told once the driver has been stopped. -/
def toldAfterStop (faults : List (String × String)) (f : Failure) : Failure :=
  match faults.lookup ServiceCall.stop.name with
  | some message => .driver { message }
  | none => f

lemma stopping (f : Failure) (s : Stage Float) :
    (do Browser.service .stop; Play.fail f : Play Float Session) s =
      (.failed (toldAfterStop s.faults f), s.note (.service .stop)) := by
  unfold toldAfterStop
  rcases fault : s.faults.lookup ServiceCall.stop.name with _ | message
  · exact bind_done (Browser.service_done fault)
  · exact bind_failed (Browser.service_failed fault)

section Launch

variable (started : s.faults.lookup ServiceCall.start.name = none)

include started

/-- A failure to come by a browser stops the driver. -/
lemma launch_unobtained (h : obtain settings (s.note (.service .start)) = (.failed f, t)) :
    launch settings s = (.failed (toldAfterStop t.faults f), t.note (.service .stop)) :=
  (bind_done (Browser.service_done started)).trans
    ((bind_done (attempt_failed h)).trans (stopping f t))

/-- A failure to open a context closes the browser and stops the driver. -/
lemma launch_unfurnished (h : obtain settings (s.note (.service .start)) = (.done (), t))
    (hc : openContext settings t = (.failed f, u)) : launch settings s =
      (.failed (toldAfterStop u.faults f),
        (u.note (.service .closeBrowser)).note (.service .stop)) :=
  (bind_done (Browser.service_done started)).trans ((bind_done (attempt_done h)).trans
    ((bind_done (attempt_failed hc)).trans
      ((bind_done (ignoreDriver_service .closeBrowser u)).trans (stopping f _))))

lemma launch_furnished {page : Nat}
    (h : furnish settings (s.note (.service .start)) = (.done page, u)) :
    launch settings s = begin page (settings .browserTimeout) true u := by
  obtain ⟨⟨⟩, t, ho, hc⟩ := done_of_bind h
  exact (bind_done (Browser.service_done started)).trans ((bind_done (attempt_done ho)).trans
    (bind_done (attempt_done hc)))

lemma launch_endless (h : furnish settings (s.note (.service .start)) = (.endless, u)) :
    launch settings s = (.endless, u) := by
  refine (bind_done (Browser.service_done started)).trans ?_
  rcases ho : obtain settings (s.note (.service .start)) with ⟨⟨⟩ | f | _, t⟩
  · have opening : openContext settings t = (.endless, u) := (bind_done ho).symm.trans h
    exact (bind_done (attempt_done ho)).trans (bind_endless (attempt_endless opening))
  · cases (bind_failed ho).symm.trans h
  · cases (bind_endless ho).symm.trans h
    exact bind_endless (attempt_endless ho)

/-- Whatever goes wrong first, a launch tells it unless stopping the driver fails. -/
lemma launch_failing (h : furnish settings (s.note (.service .start)) = (.failed f, u)) :
    ∃ t calls, launch settings s = (.failed (toldAfterStop s.faults f), t) ∧
      Stage.Called calls s t := by
  obtain ⟨calls, called⟩ := (furnish_caused h).called
  have whole := (Stage.Called.note s (.service .start)).trans called
  rcases failed_of_bind h with h | ⟨⟨⟩, t, ho, h⟩
  · rw [← whole.faults]
    exact ⟨_, _, launch_unobtained started h, whole.trans (.note _ _)⟩
  · rw [← whole.faults]
    exact ⟨_, _, launch_unfurnished started ho h, (whole.trans (.note _ _)).trans (.note _ _)⟩

end Launch

/-- A launch that fails although its driver could be started tells what went wrong first,
whatever the closing of the browser does, unless the driver cannot be stopped: then it tells
that. The run around it fails with the message that is told. -/
theorem failed_launch_told {g : Failure} (started : s.faults.lookup ServiceCall.start.name = none)
    (failed : launch settings s = (.failed g, t)) :
    ∃ f u, furnish settings (s.note (.service .start)) = (.failed f, u) ∧
      Caused settings (s.note (.service .start)) f u ∧
      (s.faults.lookup ServiceCall.stop.name = none → g = f) ∧
      (∀ message, s.faults.lookup ServiceCall.stop.name = some message →
        g = .driver { message }) ∧
      ∀ (url : Value) (given : Run.Given) (actions : List Action) (r : Stage Float),
        given.read = .ok actions → Run.opened r = s →
          Run.ofGiven settings url given r =
            (.done (.error ⟨.failed g.message "RUN_FAILED" [], []⟩), t) := by
  rcases h : furnish settings (s.note (.service .start)) with ⟨page | f | _, u⟩
  · obtain ⟨v, hv, -⟩ := begin_called page (settings .browserTimeout) u
    cases ((launch_furnished started h).trans hv).symm.trans failed
  · obtain ⟨v, calls, told, called⟩ := launch_failing started h
    cases told.symm.trans failed
    refine ⟨f, u, rfl, furnish_caused h, fun fault => ?_, fun message fault => ?_, ?_⟩
    · rw [toldAfterStop, fault]
    · rw [toldAfterStop, fault]
    · rintro url given actions r read rfl
      have empty : t.records = [] := congrArg List.reverse called.ledger
      rw [Run.ofGiven_read settings url read, bind_done (Run.withSession_unlaunched failed),
        Run.withLedger_run, empty]
      rfl
  · cases (launch_endless started h).symm.trans failed

/-- A page that cannot be opened is told although the browser cannot be closed either. -/
theorem failed_launch_told_unclosed : ∃ f t u,
    launch Settings.standard
      { now := 0, faults := [("context.new_page", "no page"), ("browser.close", "stuck")] } =
      (.failed f, t) ∧
    furnish Settings.standard (Stage.note
      { now := 0, faults := [("context.new_page", "no page"), ("browser.close", "stuck")] }
      (.service .start)) = (.failed f, u) ∧ f = .driver { message := "no page" } := by
  let s : Stage Float :=
    { now := 0, faults := [("context.new_page", "no page"), ("browser.close", "stuck")] }
  obtain ⟨t, failed⟩ : ∃ t, launch Settings.standard s =
      (.failed (.driver { message := "no page" }), t) := ⟨_, rfl⟩
  obtain ⟨f, u, first, -, told, -⟩ := failed_launch_told (s := s) rfl failed
  obtain rfl := told rfl
  exact ⟨_, t, u, failed, first, rfl⟩

/-- A browser that cannot be launched is not told where the driver cannot be stopped. -/
theorem lost_cause : ∃ t u v,
    launch Settings.standard
      { now := 0
        faults := [("chromium.launch", "no browser"), ("playwright.stop", "stop failed")] } =
      (.failed (.driver { message := "stop failed" }), t) ∧
    furnish Settings.standard (Stage.note
      { now := 0
        faults := [("chromium.launch", "no browser"), ("playwright.stop", "stop failed")] }
      (.service .start)) = (.failed (.driver { message := "no browser" }), u) ∧
    Run.ofValue Settings.standard (.text "https://x") (.list [])
      { now := 0
        faults := [("chromium.launch", "no browser"), ("playwright.stop", "stop failed")] } =
      (.done (.error ⟨.failed "stop failed" "RUN_FAILED" [], []⟩), v) :=
  ⟨_, _, _, rfl, rfl, rfl⟩

end Session
end Rehearsal
