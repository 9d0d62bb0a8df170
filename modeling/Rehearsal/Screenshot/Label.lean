import Rehearsal.Text.Cut
import Rehearsal.Time.Clock
/-!
Names of screenshot files. A label becomes part of a file name once every run of other characters
than ASCII letters, digits, hyphens and underscores has become one underscore. The moment of the
capture and, inside a loop, the attempt keep names apart.
-/
namespace Rehearsal.Screenshot

def isSafe (c : Char) : Bool := c.isAlphanum || c == '_' || c == '-'

/-- Replaces each run of unsafe characters by one underscore. The flag says that the character
before was unsafe. -/
def replaceRuns : Bool → List Char → List Char
  | _, [] => []
  | inRun, c :: rest =>
    if isSafe c then c :: replaceRuns false rest
    else if inRun then replaceRuns true rest
    else '_' :: replaceRuns true rest

/-- The label as it may stand in a file name; one of which nothing is left becomes `step`. -/
def safeLabel (label : String) : String :=
  let cs := Text.trimChars (· == '_') (replaceRuns false label.toList)
  if cs.isEmpty then "step" else String.ofList cs

/-- The ending of files of an image type. Types without one of their own end in their name. -/
def fileEnding (imageType : String) : String :=
  if imageType = "jpeg" then "jpg" else imageType

/-- The name of the file for a capture. -/
def fileName (label : String) (attempt : Option Int) (imageType : String) (m : Moment) : String :=
  let suffix := match attempt with
    | none => ""
    | some n => "_attempt_" ++ toString n
  "debug_" ++ safeLabel label ++ suffix ++ "_" ++ m.stamp ++ "." ++ fileEnding imageType

/-- Names with one of these endings, in either case, are images. -/
def imageEndings : List String := [".png", ".jpg", ".jpeg"]

def isImage (name : String) : Bool :=
  imageEndings.any (Text.endsWith (String.ofList (name.toList.map Char.toLower)))

example : replaceRuns false ['a', ' ', '!', 'b'] = ['a', '_', 'b'] := by decide

end Rehearsal.Screenshot
