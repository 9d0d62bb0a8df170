import Rehearsal.Proofs.RunCourse
import Rehearsal.Proofs.WireForm
import Rehearsal.Server
/-!
# What a request to run a playbook is answered

A body that is a request starts one run, and its outcome is the answer. Any other body leaves the
stage as it is: an object and a body that counts as absent are refused, while data of another kind
and data nested too deeply come to a failure that nobody attends to.
-/
namespace Rehearsal.Server

open Play Run

/-- The answer to a posted playbook. -/
def posted (settings : Settings) (payload : Payload) : Play Float Reply :=
  reply settings "POST" ⟨"POST", "/executar", payload⟩

/-- Data that a request is read from: an object with a present address and a list of actions, which
are accepted. -/
inductive Accepted : Value → Rehearsal.Request → Prop
  | intro (fields : Fields) (url : Value) (items : List Value) (r : Rehearsal.Request)
      (address : fields.lookup "url" = some url) (present : url.truthy)
      (actions : fields.lookup "actions" = some (.list items))
      (valid : Request.ofFields [("url", url), ("actions", .list items)] = .ok r) :
      Accepted (.object fields) r

/-- The request has the address without the blanks around it and one action for each item. -/
structure Taken (data : Value) (r : Rehearsal.Request) : Prop where
  address : ∃ fields t, data = .object fields ∧ fields.lookup "url" = some (.text t) ∧
    r.url = Text.trim t ∧ r.url ≠ ""
  actions : ∃ fields items, data = .object fields ∧
    fields.lookup "actions" = some (.list items) ∧
    items.map (fun v => (Registry.standard.parse (.raw v)).1) = r.actions.map .ok

/-- What a failed run is answered: its message and ledger, and which action failed if one did. -/
structure Failed (f : RunFailure) (answer : Reply) : Prop where
  status : answer.status = 500
  body : ∃ fields, answer.body = .json (.object fields) ∧
    fields.lookup "error" = some (.text "Scraping failed") ∧
    fields.lookup "details" = some (.text f.cause.message) ∧
    fields.lookup "screenshots" = some (.list (f.records.map fun r => .object r.toFields)) ∧
    (∀ v, fields.lookup "index" = some v ↔
      ∃ index type error code, f.cause = .actionFailed index type error code ∧ v = .int index) ∧
    ∀ v, fields.lookup "action" = some v ↔
      ∃ index type error code, f.cause = .actionFailed index type error code ∧ v = .text type

/-- How the end of a run becomes the end of its answer. -/
inductive Told : Ending (Except RunFailure RunResult) → Ending Reply → Prop
  | result (r : RunResult) : Told (.done (.ok r)) (.done ⟨200, .json (.object r.report)⟩)
  | failure (f : RunFailure) (answer : Reply) (h : Failed f answer) :
      Told (.done (.error f)) (.done answer)
  | endless : Told .endless .endless

/-- Bodies whose refusal is foreseen: objects, and whatever counts as absent. -/
def Foreseen (payload : Payload) : Prop :=
  ∃ data, payload.data = .ok data ∧ ((∃ fields, data = .object fields) ∨ data.truthy = false)

/-- How a posted playbook is answered, and the stage that is left. -/
inductive Answered (settings : Settings) (payload : Payload) (s : Stage Float) :
    Ending Reply × Stage Float → Prop
  | run (data : Value) (r : Rehearsal.Request) (read : payload.data = .ok data)
      (accepted : Accepted data r) (taken : Taken data r)
      (ending : Ending (Except RunFailure RunResult)) (t : Stage Float)
      (ran : ofItems settings (.text r.url) (r.actions.map .ready) s = (ending, t))
      (answer : Ending Reply) (told : Told ending answer) : Answered settings payload s (answer, t)
  | refused (answer : Reply)
      (unaccepted : ∀ data r, payload.data = .ok data → ¬ Accepted data r)
      (foreseen : Foreseen payload ↔ answer.status = 400)
      (status : answer.status = 400 ∨ answer.status = 500) :
      Answered settings payload s (.done answer, s)

variable {settings : Settings} {payload : Payload} {s : Stage Float}

lemma posted_eq (settings : Settings) (payload : Payload) : posted settings payload =
    guarded (match payload.data with
      | .ok data => run settings data
      | .error f => unexpected f.message) := by
  have found : route "POST" (pathOf "/executar") = .found .runs := by decide +kernel
  unfold posted reply
  dsimp only
  rw [found]
  rfl

theorem taken_of_accepted {data : Value} {r : Rehearsal.Request} (h : Accepted data r) :
    Taken data r := by
  obtain ⟨fields, url, items, _, address, present, actions, valid⟩ := h
  obtain ⟨read, required, -⟩ := Request.ofFields_ok.1 valid
  obtain ⟨found, given, accepted⟩ := Validation.required_ok.1 required
  obtain ⟨t, text, trimmed, nonempty⟩ := addressText_ok.1 accepted
  obtain rfl : ("url", url) = found := Option.some.inj given
  obtain rfl : url = .text t := text
  exact ⟨⟨fields, t, rfl, address, trimmed.symm, nonempty⟩,
    ⟨fields, items, rfl, actions, (Request.readActions_ok rfl).1 read⟩⟩

theorem failed_runFailure (f : RunFailure) : Failed f (runFailure f) := by
  obtain ⟨cause, records⟩ := f
  refine ⟨rfl, ?_⟩
  cases cause with
  | actionFailed index type error code =>
    refine ⟨_, rfl, rfl, rfl, rfl, fun v => ?_, fun v => ?_⟩ <;>
      simp [List.lookup_cons, eq_comm]
  | _ =>
    refine ⟨_, rfl, rfl, rfl, rfl, fun v => ?_, fun v => ?_⟩ <;>
      simp [List.lookup_cons]

lemma guarded_done {p : Play Float Reply} {answer : Reply} {t : Stage Float}
    (h : p s = (.done answer, t)) : guarded p s = (.done answer, t) :=
  bind_done (attempt_done h)

lemma guarded_endless {p : Play Float Reply} {t : Stage Float} (h : p s = (.endless, t)) :
    guarded p s = (.endless, t) :=
  bind_endless (attempt_endless h)

lemma timestamp_stage (s : Stage Float) :
    (∃ text, timestamp s = (.done text, s)) ∨ ∃ f, timestamp s = (.failed f, s) := by
  have shown : (∃ m, moment s = (.done m, s)) ∨ ∃ f, moment s = (.failed f, s) := by
    unfold moment
    split
    · exact .inl ⟨_, rfl⟩
    · exact .inr ⟨_, rfl⟩
  rcases shown with ⟨m, h⟩ | ⟨f, h⟩
  · exact .inl ⟨_, bind_done h⟩
  · exact .inr ⟨f, bind_failed h⟩

/-- A failure that nobody expected is told, unless the clock cannot tell the time. -/
lemma unexpected_stage (message : String) (s : Stage Float) :
    (∃ fields, unexpected message s = (.done (error 500 fields), s)) ∨
      ∃ f, unexpected message s = (.failed f, s) := by
  rcases timestamp_stage s with ⟨text, told⟩ | ⟨f, untold⟩
  · exact .inl ⟨_, bind_done told⟩
  · exact .inr ⟨f, bind_failed untold⟩

/-- A play that fails without a trace is answered all the same, with no file. -/
lemma guarded_failed {p : Play Float Reply} {f : Failure} {s : Stage Float}
    (h : p s = (.failed f, s)) : ∃ answer, guarded p s = (.done answer, s) ∧
      answer.status = 500 ∧ ∀ type length, answer.body ≠ .file type length := by
  have attended : guarded p s =
      Play.orElse (unexpected f.message) (fun _ => pure ⟨500, .empty⟩) s :=
    bind_done (attempt_failed h)
  rw [attended]
  rcases unexpected_stage f.message s with ⟨fields, told⟩ | ⟨g, untold⟩
  · exact ⟨_, bind_done (attempt_done told), rfl, fun _ _ => nofun⟩
  · exact ⟨_, bind_done (attempt_failed untold), rfl, fun _ _ => nofun⟩

lemma guarded_unexpected (message : String) (s : Stage Float) :
    ∃ answer, guarded (unexpected message) s = (.done answer, s) ∧ answer.status = 500 := by
  rcases unexpected_stage message s with ⟨fields, told⟩ | ⟨f, untold⟩
  · exact ⟨_, guarded_done told, rfl⟩
  · obtain ⟨answer, replied, status, -⟩ := guarded_failed untold
    exact ⟨answer, replied, status⟩

/-- A request that has been read is run once, and the answer tells how the run ended. -/
theorem runRequest_told (settings : Settings) (r : Rehearsal.Request) (s : Stage Float) :
    ∃ ending t answer, ofItems settings (.text r.url) (r.actions.map .ready) s = (ending, t) ∧
      Told ending answer ∧ guarded (runRequest settings r) s = (answer, t) := by
  have read : (Given.items (r.actions.map .ready)).read = .ok r.actions := readItems_ready r.actions
  have done {result : Except RunFailure RunResult} {t : Stage Float}
      (h : ofItems settings (.text r.url) (r.actions.map .ready) s = (.done result, t)) :
      ∃ ending t answer, ofItems settings (.text r.url) (r.actions.map .ready) s = (ending, t) ∧
        Told ending answer ∧ guarded (runRequest settings r) s = (answer, t) := by
    cases result with
    | ok result => exact ⟨_, t, _, h, .result result, guarded_done (bind_done h)⟩
    | error f =>
      exact ⟨_, t, _, h, .failure f _ (failed_runFailure f), guarded_done (bind_done h)⟩
  rcases ran settings (.text r.url) s read with
    ⟨f, t, -, calls, -, -, h⟩ | ⟨session, u, -, calls, -, -, result, v, -, t, -, -, h⟩ | ⟨t, h, -⟩
  · exact done h
  · exact done h
  · exact ⟨_, t, _, h, .endless, guarded_endless (bind_endless h)⟩

lemma runFields_some {fields : Fields} {url actions : Value} :
    runFields fields = some (url, actions) ↔ fields.lookup "url" = some url ∧ url.truthy ∧
      ∃ items, fields.lookup "actions" = some (.list items) ∧ actions = .list items := by
  constructor
  · intro h
    unfold runFields at h
    split at h
    · next items listed =>
      dsimp only at h
      split at h
      · next present =>
        cases h
        cases address : fields.lookup "url" with
        | none => simp [address, Value.truthy] at present
        | some url => exact ⟨rfl, by simpa [address] using present, items, listed, rfl⟩
      · cases h
    · cases h
  · rintro ⟨address, present, items, listed, rfl⟩
    simp [runFields, address, present, listed]

lemma run_accepted {data : Value} {r : Rehearsal.Request} (h : Accepted data r) :
    run settings data = runRequest settings r := by
  obtain ⟨fields, url, items, _, address, present, actions, valid⟩ := h
  have taken : runFields fields = some (url, .list items) :=
    runFields_some.2 ⟨address, present, items, actions, rfl⟩
  simp only [run, taken, valid]

lemma run_unaccepted_object {fields : Fields} (unaccepted : ∀ r, ¬ Accepted (.object fields) r) :
    ∃ answer, run settings (.object fields) = pure answer ∧ answer.status = 400 := by
  cases taken : runFields fields with
  | none => exact ⟨_, by rw [run, taken], rfl⟩
  | some found =>
    obtain ⟨url, actions⟩ := found
    obtain ⟨address, present, items, listed, rfl⟩ := runFields_some.1 taken
    cases valid : Request.ofFields [("url", url), ("actions", .list items)] with
    | ok r => exact absurd (.intro fields url items r address present listed valid) (unaccepted r)
    | error faults =>
      exact ⟨error 400 [("error", .text "Invalid actions"), ("details", faultsValue faults)],
        by simp only [run, taken, valid], rfl⟩

lemma run_other {data : Value} (other : ¬ ∃ fields, data = .object fields) :
    run settings data = if data.truthy then
        unexpected ("'" ++ data.kindName ++ "' object has no attribute 'get'")
      else pure run.invalid := by
  cases data with
  | object fields => exact absurd ⟨fields, rfl⟩ other
  | _ => rfl

/-- Data that is no request is refused, an object or absent data as foreseen. -/
lemma run_unaccepted {data : Value} (unaccepted : ∀ r, ¬ Accepted data r) (s : Stage Float) :
    ∃ answer, guarded (run settings data) s = (.done answer, s) ∧
      (((∃ fields, data = .object fields) ∨ data.truthy = false) ↔ answer.status = 400) ∧
      (answer.status = 400 ∨ answer.status = 500) := by
  by_cases object : ∃ fields, data = .object fields
  · obtain ⟨fields, rfl⟩ := object
    obtain ⟨answer, h, status⟩ := @run_unaccepted_object settings _ unaccepted
    exact ⟨answer, by rw [h]; rfl, ⟨fun _ => status, fun _ => .inl ⟨fields, rfl⟩⟩, .inl status⟩
  · rw [run_other object]
    cases present : data.truthy with
    | false => exact ⟨run.invalid, rfl, ⟨fun _ => rfl, fun _ => .inr rfl⟩, .inl rfl⟩
    | true =>
      obtain ⟨answer, h, status⟩ :=
        guarded_unexpected ("'" ++ data.kindName ++ "' object has no attribute 'get'") s
      exact ⟨answer, h, by simp [object, status], .inr status⟩

/-- Every posted body is answered: a request by the outcome of its run, any other body by a refusal
that leaves the stage alone. -/
theorem posted_answered (settings : Settings) (payload : Payload) (s : Stage Float) :
    Answered settings payload s (posted settings payload s) := by
  rw [posted_eq]
  cases read : payload.data with
  | error f =>
    obtain ⟨answer, h, status⟩ := guarded_unexpected f.message s
    dsimp only
    rw [h]
    refine .refused answer (fun data r hd => by cases read.symm.trans hd) ⟨?_, ?_⟩ (.inr status)
    · rintro ⟨data, hd, -⟩
      cases read.symm.trans hd
    · intro refused
      rw [status] at refused
      cases refused
  | ok data =>
    by_cases accepted : ∃ r, Accepted data r
    · obtain ⟨r, accepted⟩ := accepted
      obtain ⟨ending, t, answer, ran, told, answered⟩ := runRequest_told settings r s
      dsimp only
      rw [run_accepted accepted, answered]
      exact .run data r read accepted (taken_of_accepted accepted) ending t ran answer told
    · obtain ⟨answer, h, foreseen, status⟩ := @run_unaccepted settings data
        (fun r h => accepted ⟨r, h⟩) s
      dsimp only
      rw [h]
      refine .refused answer ?_ ?_ status
      · intro data' r hd h
        cases read.symm.trans hd
        exact accepted ⟨r, h⟩
      · rw [← foreseen]
        constructor
        · rintro ⟨data', hd, h⟩
          cases read.symm.trans hd
          exact h
        · exact fun h => ⟨data, read, h⟩

/-- A list is no request, but neither is it refused as one. -/
theorem posted_list_unattended : ∃ answer,
    posted Settings.standard (.ready "application/json" (.list [.int 1])) { now := 0 } =
      (.done answer, { now := 0 }) ∧ answer.status = 500 ∧
    ∀ r, ¬ Accepted (.list [.int 1]) r := by
  have read : Payload.data (.ready "application/json" (.list [.int 1])) = .ok (.list [.int 1]) := by
    have json : isJson "application/json" = true := by decide +kernel
    simp [Payload.data, json]
  obtain ⟨answer, h, status⟩ :=
    guarded_unexpected "'list' object has no attribute 'get'" { now := 0 }
  refine ⟨answer, ?_, status, nofun⟩
  rw [posted_eq, read]
  exact h

end Rehearsal.Server
