import Rehearsal.Settings
/-!
Replacing settings by untyped values that are taken as they are. The outcome is a view of settings,
not settings: its values need not be of their settings' kinds.
-/
namespace Rehearsal

namespace Value

/-- Is the double a whole number, and this one? -/
def isInt (x : Float) (n : Int) : Bool :=
  match Decimal.Shape.ofFloat x with
  | .finite b => b.isWhole && b.truncate == n
  | _ => false

/-- Numbers and flags as numbers. -/
def asNumber : Value → Value
  | flag b => int (if b then 1 else 0)
  | v => v

mutual
/-- Equality by content: flags are the numbers zero and one, a number's kind does not matter, and
neither does the order of an object's fields. -/
def same (a b : Value) : Bool :=
  match a with
  | null => match b with
    | null => true
    | _ => false
  | flag p => match asNumber b with
    | int n => n == (if p then 1 else 0)
    | float y => isInt y (if p then 1 else 0)
    | _ => false
  | int n => match asNumber b with
    | int m => n == m
    | float y => isInt y n
    | _ => false
  | float x => match asNumber b with
    | int m => isInt x m
    | float y => x == y
    | _ => false
  | text s => match b with
    | text t => s == t
    | _ => false
  | moment t => match b with
    | moment u => t == u
    | _ => false
  | list xs => match b with
    | list ys => sameItems xs ys
    | _ => false
  | object fs => match b with
    | object gs => fs.length == gs.length && sameFields fs gs
    | _ => false

def sameItems (xs ys : List Value) : Bool :=
  match xs, ys with
  | [], [] => true
  | x :: xs, y :: ys => same x y && sameItems xs ys
  | _, _ => false

def sameFields (fs gs : List (String × Value)) : Bool :=
  match fs with
  | [] => true
  | (k, v) :: rest => (match gs.lookup k with
    | some w => same v w
    | none => false) && sameFields rest gs
end

end Value

/-- Why settings cannot be replaced. -/
inductive OverrideFault where
  | unknown (name : String)
  /-- The name that stands for the settings themselves. -/
  | reserved (name : String)
deriving Repr, DecidableEq

def OverrideFault.message : OverrideFault → String
  | unknown name => "RunConfig.__init__() got an unexpected keyword argument '" ++ name ++ "'"
  | reserved name =>
    "RunConfig.with_overrides() got multiple values for argument '" ++ name ++ "'"

namespace Settings

/-- The value for a key after the replacements. -/
def replaced (s : Settings) (fields : List (String × Value)) (k : Key) : Value :=
  (fields.lookup k.name).getD (s.valueOf k)

/-- Does a replaced value differ from the standard one? Text never equals a folder. -/
def differs (s : Settings) (fields : List (String × Value)) (k : Key) : Bool :=
  if k.kind = .folder ∧ (fields.lookup k.name).isSome then true
  else !Value.same (s.replaced fields k) (standard.valueOf k)

/-- The name that stands for the settings themselves. -/
def ownName : String := "self"

/-- The values that differ from the standard ones once the given ones have been put in. -/
def override (s : Settings) (fields : List (String × Value)) :
    Except OverrideFault (List (Key × Value)) :=
  if (fields.lookup ownName).isSome then .error (.reserved ownName)
  else match fields.find? fun (name, _) => (Key.ofName name).isNone with
  | some (name, _) => .error (.unknown name)
  | none => .ok ((Key.every.filter (s.differs fields)).map fun k => (k, s.replaced fields k))

end Settings
end Rehearsal
