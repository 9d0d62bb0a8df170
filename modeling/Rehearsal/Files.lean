import Rehearsal.Files.Path
import Rehearsal.Text.Quoted
/-!
A tree of files. Every entry stands at its place, the names from the root down to it, and places are
distinct. A path leads to a place by walking: each name but the last must be a directory, and `..`
goes back to the one before. Walking fails as the first obstacle says.
-/
namespace Rehearsal

/-- The names from the root down. -/
abbrev Location := List String

inductive Content where
  | text (s : String)
  | zeros (n : Nat)
deriving Repr, DecidableEq

def Content.size : Content → Nat
  | text s => s.utf8ByteSize
  | zeros n => n

/-- `modified` is in nanoseconds since the start of 1970. -/
structure File where
  content : Content
  modified : Int
deriving Repr, DecidableEq

inductive Node where
  | file (f : File)
  | directory
deriving Repr, DecidableEq

structure Files where
  /-- The working directory, where relative paths start. -/
  home : Location
  entries : List (Location × Node)
deriving Repr, DecidableEq

inductive Obstacle where
  | missing
  | exists
  | notDirectory
  | isDirectory
  | nameTooLong
  | nullCharacter
deriving Repr, DecidableEq

/-- An obstacle on the way to a path. -/
structure FileFault where
  obstacle : Obstacle
  path : String
deriving Repr, DecidableEq

def Obstacle.number : Obstacle → Nat
  | missing => 2
  | .exists => 17
  | notDirectory => 20
  | isDirectory => 21
  | nameTooLong => 36
  | nullCharacter => 0

def Obstacle.text : Obstacle → String
  | missing => "No such file or directory"
  | .exists => "File exists"
  | notDirectory => "Not a directory"
  | isDirectory => "Is a directory"
  | nameTooLong => "File name too long"
  | nullCharacter => "embedded null byte"

def FileFault.message (f : FileFault) : String :=
  match f.obstacle with
  | .nullCharacter => f.obstacle.text
  | o => "[Errno " ++ toString o.number ++ "] " ++ o.text ++ ": " ++ Text.quoted f.path

namespace Files

/-- What stands at a place. The root and the way down to the working directory are always there. -/
def at? (fs : Files) (p : Location) : Option Node :=
  if p.isPrefixOf fs.home then some .directory else fs.entries.lookup p

def isDirectoryAt (fs : Files) (p : Location) : Bool := fs.at? p == some .directory

def tooLong (name : String) : Bool := 255 < name.utf8ByteSize

/-- From a directory along some names to a place. The last name need not be there. -/
def walk (fs : Files) (dir : Location) : List String → Except Obstacle Location
  | [] => .ok dir
  | name :: rest =>
    if name = ".." then walk fs dir.dropLast rest
    else if tooLong name then .error .nameTooLong
    else
      let place := dir ++ [name]
      if rest.isEmpty then .ok place
      else match fs.at? place with
        | some .directory => walk fs place rest
        | some (.file _) => .error .notDirectory
        | none => .error .missing

def start (fs : Files) (p : Path) : Location := if p.anchor = .here then fs.home else []

/-- The place of a path. -/
def locate (fs : Files) (p : Path) : Except Obstacle Location :=
  if p.names.any (·.toList.contains '\x00') then .error .nullCharacter
  else if 4095 < p.text.utf8ByteSize then .error .nameTooLong
  else fs.walk (fs.start p) p.names

/-- What a path leads to. A path that leads nowhere is no error, but a name that no file can have
is. -/
def node? (fs : Files) (p : Path) : Except FileFault (Option Node) :=
  match fs.locate p with
  | .ok place => .ok (fs.at? place)
  | .error .nameTooLong => .error ⟨.nameTooLong, p.text⟩
  | .error _ => .ok none

def isDirectory (fs : Files) (p : Path) : Except FileFault Bool :=
  (fs.node? p).map fun n => n == some .directory

def isFile (fs : Files) (p : Path) : Except FileFault Bool :=
  (fs.node? p).map fun n => match n with
    | some (.file _) => true
    | _ => false

/-- Puts a node at a place. -/
def put (fs : Files) (p : Location) (n : Node) : Files :=
  { fs with entries := (p, n) :: fs.entries.filter fun e => e.1 ≠ p }

def erase (fs : Files) (p : Location) : Files :=
  { fs with entries := fs.entries.filter fun e => e.1 ≠ p }

/-- Makes one directory, whose parent must be there. -/
def makeOne (fs : Files) (p : Path) : Except Obstacle Files :=
  match fs.locate p with
  | .error o => .error o
  | .ok place => match fs.at? place with
    | some _ => .error .exists
    | none => .ok (fs.put place .directory)

/-- Settles the failure to make a directory: one that is there already will do. -/
def acceptExisting (fs : Files) (p : Path) (o : Obstacle) : Except FileFault Files :=
  if o = .nullCharacter then .error ⟨o, p.text⟩
  else match fs.isDirectory p with
    | .error f => .error f
    | .ok true => .ok fs
    | .ok false => .error ⟨o, p.text⟩

/-- Makes one directory, or takes the one that is there. -/
def settle (fs : Files) (p : Path) : Except FileFault Files :=
  match fs.makeOne p with
  | .ok fs => .ok fs
  | .error .missing => .error ⟨.missing, p.text⟩
  | .error o => fs.acceptExisting p o

/-- Makes the directory of a path, given as its names in reverse, and the missing ones above it. -/
def makeAll (fs : Files) (anchor : Anchor) : List String → Except FileFault Files
  | [] => fs.settle ⟨anchor, []⟩
  | name :: above =>
    let p : Path := ⟨anchor, (name :: above).reverse⟩
    match fs.makeOne p with
    | .ok fs => .ok fs
    | .error .missing => match fs.makeAll anchor above with
      | .error f => .error f
      | .ok fs => fs.settle p
    | .error o => fs.acceptExisting p o

/-- Makes a directory together with the missing ones above it; it may be there already. -/
def makeDirectory (fs : Files) (p : Path) : Except FileFault Files :=
  fs.makeAll p.anchor p.names.reverse

/-- Writes a file, new or not, into a directory that is there. -/
def write (fs : Files) (p : Path) (f : File) : Except FileFault Files :=
  match fs.locate p with
  | .error o => .error ⟨o, p.text⟩
  | .ok place =>
    if fs.isDirectoryAt place then .error ⟨.isDirectory, p.text⟩
    else if !fs.isDirectoryAt place.dropLast then .error ⟨.missing, p.text⟩
    else .ok (fs.put place (.file f))

/-- The names of all that stands directly in a directory. -/
def namesIn (fs : Files) (dir : Location) : List String :=
  fs.entries.filterMap fun (place, _) => match place.getLast? with
    | some name => if place.dropLast = dir then some name else none
    | none => none

/-- The files directly in a directory, with their names. -/
def filesIn (fs : Files) (dir : Location) : List (String × File) :=
  fs.entries.filterMap fun (place, n) => match n, place.getLast? with
    | .file f, some name => if place.dropLast = dir then some (name, f) else none
    | _, _ => none

end Files
end Rehearsal
