import Rehearsal.Decimal.Fixed
import Rehearsal.Time.Moment
/-!
Readings of a clock that only pauses advance. A clock is any ordered type with addition; runs use
doubles, where additions round, and the same definitions serve an exact clock. The wall clock shows
a whole number of seconds, its epoch, when the reading is zero.
-/
namespace Rehearsal

/-- What the engine needs of readings and of spans between them, both in seconds. -/
class Clock (τ : Type) where
  ofInt : Int → τ
  add : τ → τ → τ
  /-- The first is at most the second. -/
  le : τ → τ → Bool
  /-- The first is below the second. -/
  lt : τ → τ → Bool
  /-- A span to the nearest whole second, as text. -/
  rounded : τ → String
  /-- The calendar moment of a reading. -/
  moment : Int → τ → Except ClockFault Moment
  /-- The wall clock's reading in nanoseconds, without what is below one. -/
  nanos : τ → Int

namespace Clock

variable {τ : Type} [Clock τ]

def zero : τ := ofInt 0

/-- Is it longer than nothing? -/
def positive (t : τ) : Bool := lt zero t

/-- The wall clock's reading. -/
def wall (epoch : Int) (now : τ) : τ := add (ofInt epoch) now

/-- The span itself, unless it is below one second. -/
def atLeastOne (span : τ) : τ := if lt span (ofInt 1) then ofInt 1 else span

end Clock

namespace Clock
open Decimal

/-- A double as a whole number of seconds and what is left of it, both with its sign. -/
def split (x : Float) : Except ClockFault (Int × Float) :=
  match Shape.ofFloat x with
  | .infinite _ => .error .infinite
  | .notANumber => .error .undefined
  | .finite b => .ok (b.truncate, x - Float.ofInt b.truncate)

/-- Counts a double in parts of a second, given the rounding of the last part. -/
def countParts (parts : Nat) (round : Binary → Int) (x : Float) : Except ClockFault Int :=
  match split x with
  | .error f => .error f
  | .ok (whole, rest) => match Shape.ofFloat (rest * Float.ofNat parts) with
    | .finite b => .ok (whole * parts + round b)
    | _ => .error .undefined

/-- The greatest whole number at most the given one. -/
def floor (b : Binary) : Int := if b.negative && !b.isWhole then b.truncate - 1 else b.truncate

/-- Whole microseconds; a half goes to the even neighbour. -/
def micros (x : Float) : Except ClockFault Int := countParts 1000000 Binary.round x

/-- Whole nanoseconds, rounded down. -/
def wholeNanos (x : Float) : Except ClockFault Int := countParts 1000000000 floor x

instance : Clock Float where
  ofInt := Float.ofInt
  add := (· + ·)
  le a b := a ≤ b
  lt a b := a < b
  rounded x := fixed 0 x
  moment epoch now := match Moment.ofSeconds epoch, micros now with
    | .ok _, .ok n => Moment.after epoch n
    | .error f, _ | _, .error f => .error f
  nanos x := match wholeNanos x with
    | .ok n => n
    | .error _ => 0

end Clock
end Rehearsal
