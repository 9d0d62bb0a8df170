import Rehearsal.Failure
import Rehearsal.Screenshot.Label
/-!
The screenshots in a directory. They are the files directly in it whose names are names of images;
everything else in the directory is left alone. Listings start with the newest.
-/
namespace Rehearsal.Screenshot

/-- A stored screenshot as listings show it. `modified` is in milliseconds. Listings also tell when
the file was created. That is left out: the operating system keeps that time by a clock of its own,
files here carry none, and neither the order of a listing nor anything else depends on it. -/
structure Entry where
  name : String
  size : Nat
  modified : Int
  modifiedText : String
deriving Repr, DecidableEq

def Entry.url (e : Entry) : String := "/screenshots/" ++ e.name

/-- A number of bytes in units of 1024, correctly rounded; infinite when no double is that large. -/
def kibibytes (bytes : Int) : Float :=
  let x := Decimal.nearest (bytes.natAbs * 9765625) (-10)
  if bytes < 0 then -x else x

/-- A size in units of 1024 bytes, told in the next larger unit with two places. -/
def sizeText (kibibytes : Float) : String := Decimal.fixed 2 (kibibytes / 1024) ++ " MB"

/-- Why something is not a number of bytes. -/
inductive SizeFault where
  | tooLarge
  | notNumber (kind : String)
deriving Repr, DecidableEq

def SizeFault.message : SizeFault → String
  | tooLarge => "integer division result too large for a float"
  | notNumber kind => "unsupported operand type(s) for /: '" ++ kind ++ "' and 'int'"

/-- The size of so many bytes. Whole numbers are divided exactly. -/
def sizeOf : Value → Except SizeFault String
  | .int n => if (kibibytes n).isInf then .error .tooLarge else .ok (sizeText (kibibytes n))
  | .flag b => .ok (sizeText (kibibytes (if b then 1 else 0)))
  | .float x => .ok (sizeText (x / 1024))
  | v => .error (.notNumber v.kindName)

/-- A time of change as the file system tells it: seconds as a double. -/
def secondsOf (nanos : Int) : Float :=
  let whole := nanos.fdiv 1000000000
  Float.ofInt whole + 1e-9 * Float.ofInt (nanos - whole * 1000000000)

def millisOf (seconds : Float) : Int :=
  match Decimal.Shape.ofFloat (seconds * 1000) with
  | .finite b => b.truncate
  | _ => 0

/-- The moment of a change, in the form for listings. -/
def momentText (seconds : Float) : Except ClockFault String :=
  match Clock.micros seconds with
  | .error f => .error f
  | .ok n => (Moment.ofStamp n).map Moment.listed

def Entry.ofFile (name : String) (f : File) : Except ClockFault Entry :=
  let seconds := secondsOf f.modified
  (momentText seconds).map fun modifiedText =>
    { name, size := f.content.size, modified := millisOf seconds, modifiedText }

/-- The fault of the first entry of a directory whose path is too long to be looked at. -/
def firstFault (fs : Files) (directory : Path) (dir : Location) : Option FileFault :=
  (fs.namesIn dir).findSome? fun name => match fs.isFile (directory.child name) with
    | .error f => some f
    | .ok _ => none

/-- The images in a directory, with their place. A directory that is not there holds none. Each of
its entries is looked at. -/
def imagesIn (fs : Files) (directory : Path) : Except FileFault (Location × List (String × File)) :=
  match fs.isDirectory directory with
  | .error f => .error f
  | .ok false => .ok ([], [])
  | .ok true => match fs.locate directory with
    | .error o => .error ⟨o, directory.text⟩
    | .ok dir => match firstFault fs directory dir with
      | some f => .error f
      | none => .ok (dir, (fs.filesIn dir).filter fun (name, _) => isImage name)

/-- Newer entries stand first, entries of one moment in the order of their names. -/
def before (a b : Entry) : Bool :=
  b.modified < a.modified || (a.modified == b.modified && decide (a.name ≤ b.name))

/-- The entries for some images, up to the first without a moment. -/
def entriesOf : List (String × File) → Except ClockFault (List Entry)
  | [] => .ok []
  | (name, f) :: rest => match Entry.ofFile name f with
    | .error f => .error f
    | .ok e => (entriesOf rest).map (e :: ·)

def listing (fs : Files) (directory : Path) : Except Failure (List Entry) :=
  match imagesIn fs directory with
  | .error f => .error (.file f)
  | .ok (_, images) => match entriesOf images with
    | .error f => .error (.clock f)
    | .ok entries => .ok (entries.mergeSort before)

/-- Removes all images and tells how many there were. -/
def clear (fs : Files) (directory : Path) : Except Failure (Nat × Files) :=
  match imagesIn fs directory with
  | .error f => .error (.file f)
  | .ok (dir, images) =>
    .ok (images.length, images.foldl (fun fs (name, _) => fs.erase (dir ++ [name])) fs)

/-- The path of a stored file. A name that is not the name of an entry of the directory has none. -/
def resolve (fs : Files) (directory : Path) (name : String) : Except Failure (Option Path) :=
  if (Path.ofText name).name ≠ name then .ok none
  else match fs.isFile (directory.child name) with
    | .error f => .error (.file f)
    | .ok found => .ok (if found then some (directory.child name) else none)

structure Stats where
  count : Nat
  present : Bool
deriving Repr, DecidableEq

def stats (fs : Files) (directory : Path) : Except Failure Stats :=
  match imagesIn fs directory, fs.isDirectory directory with
  | .ok (_, images), .ok present => .ok ⟨images.length, present⟩
  | .error f, _ | _, .error f => .error (.file f)

end Rehearsal.Screenshot
