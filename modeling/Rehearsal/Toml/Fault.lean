import Rehearsal.Decimal.Whole
/-!
Why a TOML document is refused. Besides being malformed it may hold a whole number with too many
digits or values that are nested too deeply; the fault that comes first in the document counts.
-/
namespace Rehearsal.Toml

inductive Fault where
  | malformed
  | longWhole (digits : Nat)
  | tooDeep
deriving Repr, DecidableEq

/-- What is said of a fault. -/
def Fault.message : Fault → String
  | malformed => "malformed document"
  | longWhole digits => Decimal.limitText (some digits)
  | tooDeep => "maximum recursion depth exceeded"

/-- What must stand here; its lack makes the document malformed. -/
def expected {α : Type} : Option α → Except Fault α
  | some a => .ok a
  | none => .error .malformed

end Rehearsal.Toml
