import Rehearsal.Stage.Effects
/-!
What is done on a stage. A play ends with a value or with a failure, or it would never end; either
way the stage is left as it then is. Failures can be attended to, endlessness cannot.
-/
namespace Rehearsal

/-- How a play ends. -/
inductive Ending (α : Type) where
  | done (a : α)
  | failed (f : Failure)
  | endless

/-- The value that a play is done with. -/
def Ending.value? {α : Type} : Ending α → Option α
  | done a => some a
  | _ => none

def Play (τ α : Type) := Stage τ → Ending α × Stage τ

namespace Play

variable {τ α β : Type}

protected def pure (a : α) : Play τ α := fun s => (.done a, s)

protected def bind (p : Play τ α) (f : α → Play τ β) : Play τ β := fun s =>
  match p s with
  | (.done a, s) => f a s
  | (.failed e, s) => (.failed e, s)
  | (.endless, s) => (.endless, s)

instance : Monad (Play τ) where
  pure := Play.pure
  bind := Play.bind

/-- What the stage shows. -/
def look (f : Stage τ → α) : Play τ α := fun s => (.done (f s), s)

def change (f : Stage τ → Stage τ) : Play τ Unit := fun s => (.done (), f s)

def fail (e : Failure) : Play τ α := fun s => (.failed e, s)

def endless : Play τ α := fun s => (.endless, s)

/-- The play itself, with a failure as its value. -/
def attempt (p : Play τ α) : Play τ (Except Failure α) := fun s =>
  match p s with
  | (.done a, s) => (.done (.ok a), s)
  | (.failed e, s) => (.done (.error e), s)
  | (.endless, s) => (.endless, s)

/-- Goes on after a failure as the handler says. -/
def orElse (p : Play τ α) (handler : Failure → Play τ α) : Play τ α := do
  match ← attempt p with
  | .ok a => return a
  | .error e => handler e

/-- A value, or the failure that stands in its place. -/
def ofExcept (r : Except Failure α) : Play τ α :=
  match r with
  | .ok a => Play.pure a
  | .error e => fail e

/-- What the stage shows, or the failure to find it. -/
def examine (f : Stage τ → Except Failure α) : Play τ α := do ofExcept (← look f)

theorem bind_done {p : Play τ α} {f : α → Play τ β} {s t : Stage τ} {a : α}
    (h : p s = (.done a, t)) : (p >>= f) s = f a t := by
  simp [bind, Play.bind, h]

theorem bind_failed {p : Play τ α} {f : α → Play τ β} {s t : Stage τ} {e : Failure}
    (h : p s = (.failed e, t)) : (p >>= f) s = (.failed e, t) := by
  simp [bind, Play.bind, h]

theorem bind_endless {p : Play τ α} {f : α → Play τ β} {s t : Stage τ}
    (h : p s = (.endless, t)) : (p >>= f) s = (.endless, t) := by
  simp [bind, Play.bind, h]

theorem bind_run (p : Play τ α) (f : α → Play τ β) (s : Stage τ) :
    (p >>= f) s = match p s with
      | (.done a, t) => f a t
      | (.failed e, t) => (.failed e, t)
      | (.endless, t) => (.endless, t) := by
  rcases h : p s with ⟨_ | _ | _, t⟩
  · exact bind_done h
  · exact bind_failed h
  · exact bind_endless h

/-- What is done after a play is done. -/
theorem done_of_bind {p : Play τ α} {f : α → Play τ β} {s t : Stage τ} {b : β}
    (h : (p >>= f) s = (.done b, t)) : ∃ a u, p s = (.done a, u) ∧ f a u = (.done b, t) := by
  rw [bind_run] at h
  rcases hp : p s with ⟨a | e | _, u⟩ <;> rw [hp] at h
  · exact ⟨a, u, rfl, h⟩
  · cases h
  · cases h

/-- A failure comes from the first play or from what is done after it. -/
theorem failed_of_bind {p : Play τ α} {f : α → Play τ β} {s t : Stage τ} {e : Failure}
    (h : (p >>= f) s = (.failed e, t)) :
    p s = (.failed e, t) ∨ ∃ a u, p s = (.done a, u) ∧ f a u = (.failed e, t) := by
  rw [bind_run] at h
  rcases hp : p s with ⟨a | g | _, u⟩ <;> rw [hp] at h
  · exact .inr ⟨a, u, rfl, h⟩
  · cases h
    exact .inl rfl
  · cases h

@[simp] theorem pure_run (a : α) (s : Stage τ) : (pure a : Play τ α) s = (.done a, s) := rfl

@[simp] theorem look_run (f : Stage τ → α) (s : Stage τ) : look f s = (.done (f s), s) := rfl

@[simp] theorem change_run (f : Stage τ → Stage τ) (s : Stage τ) :
    change f s = (.done (), f s) := rfl

@[simp] theorem fail_run (e : Failure) (s : Stage τ) :
    (fail e : Play τ α) s = (.failed e, s) := rfl

theorem examine_ok {f : Stage τ → Except Failure α} {s : Stage τ} {a : α} (h : f s = .ok a) :
    examine f s = (.done a, s) := by
  rw [examine, bind_done (look_run f s), h]
  rfl

theorem examine_error {f : Stage τ → Except Failure α} {s : Stage τ} {e : Failure}
    (h : f s = .error e) : examine f s = (.failed e, s) := by
  rw [examine, bind_done (look_run f s), h]
  rfl

/-- What is made of a value leaves the stage alone. -/
theorem bind_pure_stage (p : Play τ α) (f : α → β) (s : Stage τ) :
    ((p >>= fun a => pure (f a)) s).2 = (p s).2 := by
  rw [bind_run]
  rcases p s with ⟨_ | _ | _, t⟩ <;> rfl

theorem attempt_done {p : Play τ α} {s t : Stage τ} {a : α} (h : p s = (.done a, t)) :
    attempt p s = (.done (.ok a), t) := by
  simp [attempt, h]

theorem attempt_failed {p : Play τ α} {s t : Stage τ} {e : Failure}
    (h : p s = (.failed e, t)) : attempt p s = (.done (.error e), t) := by
  simp [attempt, h]

theorem attempt_endless {p : Play τ α} {s t : Stage τ} (h : p s = (.endless, t)) :
    attempt p s = (.endless, t) := by
  simp [attempt, h]

/-- An attempt that has a value is one of a play that is done. -/
theorem done_of_attempt {p : Play τ α} {s t : Stage τ} {a : α}
    (h : attempt p s = (.done (.ok a), t)) : p s = (.done a, t) := by
  unfold attempt at h
  rcases hp : p s with ⟨_ | _ | _, u⟩ <;> rw [hp] at h <;> cases h
  rfl

theorem attempt_ne_failed (p : Play τ α) (s t : Stage τ) (e : Failure) :
    attempt p s ≠ (.failed e, t) := by
  unfold attempt
  rcases p s with ⟨_ | _ | _, u⟩ <;> nofun

/-- An attempt leaves the stage as the play does. -/
theorem attempt_stage (p : Play τ α) (s : Stage τ) : (attempt p s).2 = (p s).2 := by
  unfold attempt
  rcases p s with ⟨_ | _ | _, t⟩ <;> rfl

variable [Clock τ]

/-- Waits. -/
def sleep (span : τ) : Play τ Unit := change (·.sleep span)

/-- Waits, unless there is no time to wait. -/
def pause (span : τ) : Play τ Unit := if Clock.positive span then sleep span else pure ()

def fileWork (work : Files → Except FileFault Files) : Play τ Unit := fun s =>
  match work s.files with
  | .ok files => (.done (), { s with files })
  | .error f => (.failed (.file f), s)

/-- The moment that the calendar shows. -/
def moment : Play τ Moment := fun s =>
  match Clock.moment s.epoch s.now with
  | .ok m => (.done m, s)
  | .error f => (.failed (.clock f), s)

end Play
end Rehearsal
