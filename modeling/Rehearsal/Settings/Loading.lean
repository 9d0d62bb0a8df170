import Rehearsal.Settings.Reading
import Rehearsal.Toml.Document
import Rehearsal.Files
/-!
Where settings come from: a table in a file and variables of the environment. A variable counts when
its name starts with `SCRAPER_`; the rest of the name, in lower case, names the setting. `PORT` says
where the server listens, unless it is empty. Variables take precedence over the file, which takes
precedence over the standard settings.
-/
namespace Rehearsal

abbrev Environment := List (String × String)

inductive LoadFault where
  | file (f : FileFault)
  | document (f : Toml.Fault)
  | convert (f : ConvertFault)
deriving Repr, DecidableEq

namespace Settings
open Rehearsal.Text

def variableStart : String := "SCRAPER_"

/-- The variable that says where the file is. -/
def fileVariable : String := "SCRAPER_CONFIG"

/-- The content of a file of settings; a file that is not there has none. -/
def readTable (fs : Files) (p : Path) : Except LoadFault Toml.Table :=
  match fs.node? p with
  | .error f => .error (.file f)
  | .ok none => .ok []
  | .ok (some .directory) => .error (.file ⟨.isDirectory, p.text⟩)
  | .ok (some (.file f)) =>
    let parsed := match f.content with
      | .text s => Toml.parse s
      | .zeros n => if n = 0 then .ok [] else .error .malformed
    match parsed with
    | .ok t => .ok t
    | .error f => .error (.document f)

/-- The settings' own table of a document, which may be missing. -/
def ownTable (t : Toml.Table) : Except LoadFault Toml.Table :=
  match t.lookup "scraper" with
  | none => .ok []
  | some (.object sub) => .ok sub
  | some v => .error (.convert (.notTable v.kindName))

/-- The setting a variable names, and its value. -/
def ofVariable (v : String × String) : Option (String × Value) :=
  if startsWith v.1 variableStart ∧ v.1 ≠ fileVariable then
    some (lower (String.ofList (v.1.toList.drop variableStart.length)), .text v.2)
  else none

def listeningVariable (env : Environment) : List (String × Value) :=
  match env.lookup "PORT" with
  | some s => if s = "" then [] else [("port", .text s)]
  | none => []

/-- Assigns all of `new`, in order. -/
def updated (fields new : List (String × Value)) : List (String × Value) :=
  new.foldl (fun acc (name, v) => Value.assign acc name v) fields

/-- What the environment says about settings; the name that comes last counts. -/
def ofEnvironment (env : Environment) : List (String × Value) :=
  updated (listeningVariable env) (env.filterMap ofVariable)

def defaultFile : String := "config.toml"

/-- Which file holds the settings. -/
def filePath (given : Option String) (env : Environment) : Path :=
  Path.ofText (given.getD ((env.lookup fileVariable).getD defaultFile))

/-- The settings from the file, given or named by the environment, and from the environment. -/
def load (fs : Files) (given : Option String) (env : Environment) : Except LoadFault Settings :=
  match readTable fs (filePath given env) with
  | .error f => .error f
  | .ok document => match ownTable document with
    | .error f => .error f
    | .ok table => match ofFields (updated table (ofEnvironment env)) with
      | .ok s => .ok s
      | .error f => .error (.convert f)

end Settings
end Rehearsal
