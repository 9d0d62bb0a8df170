import Rehearsal.Failure
import Rehearsal.Text.Cut
/-!
What the address of a page mentions. Addresses are text unless whoever started the run passed
something else; a list mentions its items and an object its names, and no other value can be asked.
-/
namespace Rehearsal.Address

/-- Is the value this text? -/
def isText (t : String) : Value → Bool
  | .text s => s = t
  | _ => false

/-- Does the address mention a text? -/
def mentions (address : Value) (t : String) : Except Failure Bool :=
  match address with
  | .text s => .ok (Text.contains s t)
  | .list items => .ok (items.any (isText t))
  | .object fields => .ok (fields.lookup t).isSome
  | v => .error (.unsearchableAddress v.kindName)

/-- Does the address mention one of some texts? They are asked about in order, up to the first that
it mentions. -/
def mentionsAny (address : Value) (ts : List String) : Except Failure Bool :=
  Failure.anyOf (mentions address) ts

@[simp] theorem mentions_text (s t : String) : mentions (.text s) t = .ok (Text.contains s t) := rfl

/-- Text can be asked about anything. -/
@[simp] theorem mentionsAny_text (s : String) (ts : List String) :
    mentionsAny (.text s) ts = .ok (ts.any (Text.contains s)) :=
  Failure.anyOf_ok fun t => mentions_text s t

/-- An address that is no text, and the failure to ask it. -/
structure Unsearchable (address : Value) (f : Failure) : Prop where
  untext : ∀ s, address ≠ .text s
  failure : f = .unsearchableAddress address.kindName

theorem mentions_error {address : Value} {t : String} {f : Failure}
    (h : mentions address t = .error f) : Unsearchable address f := by
  cases address with
  | text s => cases h
  | list items => cases h
  | object fields => cases h
  | _ =>
    cases h
    exact ⟨nofun, rfl⟩

theorem mentionsAny_error {address : Value} {ts : List String} {f : Failure}
    (h : mentionsAny address ts = .error f) : Unsearchable address f := by
  obtain ⟨t, -, failed⟩ := Failure.anyOf_error h
  exact mentions_error failed

end Rehearsal.Address
