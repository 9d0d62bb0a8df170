import Rehearsal.Address
import Rehearsal.Files
import Rehearsal.Time.Moment
import Rehearsal.Value
/-!
What can go wrong while a playbook runs. Failures come from the engine itself, from the browser's
driver, or from files, addresses and the clock. Engine failures have a code and details besides
their text.
-/
namespace Rehearsal

/-- A failure that the engine reports on its own account. -/
inductive EngineFailure where
  | general (message : String) (code : String) (details : List (String × Value))
  | preconditionFailed (message : String) (details : List (String × Value))
  | pageClosed (message : String) (details : List (String × Value))
  | noActivePage (message : String) (details : List (String × Value))
  | elementNotFound (selector : String) (message : String)
  | fieldNotFound (selector : String)
  | popupNotFound (message : String) (details : List (String × Value))
  /-- A loop used up its attempts; the last one may have failed. -/
  | loopExceeded (selector : String) (attempts : Int) (lastError : Option String)

namespace EngineFailure

/-- The message, unless it is empty. -/
def orElse (message default : String) : String := if message = "" then default else message

def message : EngineFailure → String
  | general m _ _ | preconditionFailed m _ | pageClosed m _ | noActivePage m _
  | popupNotFound m _ => m
  | elementNotFound selector m => orElse m ("Element not found: " ++ selector)
  | fieldNotFound selector => "Field not found: " ++ selector
  | loopExceeded selector attempts lastError =>
    let m := "Loop condition on " ++ selector ++ " not met after " ++ toString attempts ++
      " attempt(s)"
    match lastError with
    | none => m
    | some e => if e = "" then m else m ++ ": " ++ e

def code : EngineFailure → String
  | general _ code _ => code
  | preconditionFailed .. => "PRECONDITION_FAILED"
  | pageClosed .. => "PAGE_CLOSED"
  | noActivePage .. => "NO_ACTIVE_PAGE"
  | elementNotFound .. => "ELEMENT_NOT_FOUND"
  | fieldNotFound .. => "FIELD_NOT_FOUND"
  | popupNotFound .. => "POPUP_NOT_FOUND"
  | loopExceeded .. => "LOOP_EXCEEDED"

def details : EngineFailure → List (String × Value)
  | general _ _ d | preconditionFailed _ d | pageClosed _ d | noActivePage _ d
  | popupNotFound _ d => d
  | elementNotFound selector _ | fieldNotFound selector => [("selector", .text selector)]
  | loopExceeded selector attempts lastError =>
    [("selector", .text selector), ("attempts", .int attempts),
      ("last_error", Value.ofOption .text lastError)]

end EngineFailure

/-- A failure of the browser's driver. Running out of time is a kind of its own. -/
structure DriverFailure where
  message : String
  timedOut : Bool := false
deriving Repr, DecidableEq

inductive Failure where
  | engine (e : EngineFailure)
  | driver (d : DriverFailure)
  | file (f : FileFault)
  | clock (f : ClockFault)
  | address (f : AddressFault)
  /-- The endpoint's answer could not be read. -/
  | badResponse (message : String)
  /-- A page address that is a list or an object. -/
  | unusableAddress (kind : String)
  /-- A page address that cannot be asked what it mentions. -/
  | unsearchableAddress (kind : String)
  /-- A header with a line end in it. -/
  | brokenHeader

namespace Failure

def message : Failure → String
  | engine e => e.message
  | driver d => d.message
  | file f => f.message
  | clock f => f.message
  | address f => f.message
  | badResponse m => m
  | unusableAddress kind => "unhashable type: '" ++ kind ++ "'"
  | unsearchableAddress kind => "argument of type '" ++ kind ++ "' is not iterable"
  | brokenHeader => "Header values must not contain newline characters."

/-- Only the engine's own failures have a code. -/
def code? : Failure → Option String
  | engine e => some e.code
  | _ => none

/-! Tests that may fail, made in order up to the first that holds. -/

/-- The first item for which the test holds. -/
def findFirst {α : Type} (test : α → Except Failure Bool) : List α → Except Failure (Option α)
  | [] => .ok none
  | a :: rest => match test a with
    | .error f => .error f
    | .ok true => .ok (some a)
    | .ok false => findFirst test rest

/-- Does the test hold for one of the items? -/
def anyOf {α : Type} (test : α → Except Failure Bool) (items : List α) : Except Failure Bool :=
  (findFirst test items).map Option.isSome

theorem findFirst_ok {α : Type} {test : α → Except Failure Bool} {holds : α → Bool}
    (h : ∀ a, test a = .ok (holds a)) (items : List α) :
    findFirst test items = .ok (items.find? holds) := by
  induction items with
  | nil => rfl
  | cons a rest ih =>
    cases ha : holds a <;> simp [findFirst, h a, ha, ih]

/-- An item that is found comes after items for which the test does not hold. -/
theorem findFirst_some {α : Type} {test : α → Except Failure Bool} {items : List α} {a : α}
    (h : findFirst test items = .ok (some a)) : ∃ before after, items = before ++ a :: after ∧
      (∀ b ∈ before, test b = .ok false) ∧ test a = .ok true := by
  induction items with
  | nil => cases h
  | cons b rest ih =>
    rcases hb : test b with f | _ | _ <;> rw [findFirst, hb] at h
    · cases h
    · obtain ⟨before, after, rfl, misses, holds⟩ := ih h
      refine ⟨b :: before, after, rfl, ?_, holds⟩
      intro c hc
      rcases List.mem_cons.mp hc with rfl | hc
      · exact hb
      · exact misses c hc
    · cases h
      exact ⟨[], rest, rfl, by simp, hb⟩

theorem findFirst_none {α : Type} {test : α → Except Failure Bool} {items : List α}
    (h : findFirst test items = .ok none) : ∀ a ∈ items, test a = .ok false := by
  induction items with
  | nil => simp
  | cons b rest ih =>
    rcases hb : test b with f | _ | _ <;> rw [findFirst, hb] at h
    · cases h
    · intro a ha
      rcases List.mem_cons.mp ha with rfl | ha
      · exact hb
      · exact ih h a ha
    · cases h

/-- A failure is that of the test of an item. -/
theorem findFirst_error {α : Type} {test : α → Except Failure Bool} {items : List α}
    {f : Failure} (h : findFirst test items = .error f) : ∃ a ∈ items, test a = .error f := by
  induction items with
  | nil => cases h
  | cons b rest ih =>
    rcases hb : test b with g | _ | _ <;> rw [findFirst, hb] at h
    · cases h
      exact ⟨b, List.mem_cons_self, hb⟩
    · obtain ⟨a, ha, failed⟩ := ih h
      exact ⟨a, List.mem_cons_of_mem b ha, failed⟩
    · cases h

theorem anyOf_ok {α : Type} {test : α → Except Failure Bool} {holds : α → Bool}
    (h : ∀ a, test a = .ok (holds a)) {items : List α} :
    anyOf test items = .ok (items.any holds) := by
  rw [anyOf, findFirst_ok h, ← List.isSome_find?]
  rfl

theorem anyOf_true {α : Type} {test : α → Except Failure Bool} {items : List α}
    (h : anyOf test items = .ok true) : ∃ a ∈ items, test a = .ok true := by
  rcases hf : findFirst test items with f | _ | a <;> rw [anyOf, hf] at h <;> cases h
  obtain ⟨before, after, rfl, -, holds⟩ := findFirst_some hf
  exact ⟨a, by simp, holds⟩

theorem anyOf_false {α : Type} {test : α → Except Failure Bool} {items : List α}
    (h : anyOf test items = .ok false) : ∀ a ∈ items, test a = .ok false := by
  rcases hf : findFirst test items with f | _ | a <;> rw [anyOf, hf] at h <;> cases h
  exact findFirst_none hf

theorem anyOf_error {α : Type} {test : α → Except Failure Bool} {items : List α} {f : Failure}
    (h : anyOf test items = .error f) : ∃ a ∈ items, test a = .error f := by
  rcases hf : findFirst test items with g | found <;> rw [anyOf, hf] at h <;> cases h
  exact findFirst_error hf

end Failure
end Rehearsal
