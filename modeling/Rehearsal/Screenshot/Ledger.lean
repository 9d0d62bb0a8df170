import Rehearsal.Browser.Page
import Rehearsal.Screenshot.Label
import Rehearsal.Settings
/-!
Taking screenshots and keeping the ledger of them. A capture that does not work out is skipped, so
that it never hides what it was to document; only a clock without a calendar moment stops it.
-/
namespace Rehearsal.Screenshot

/-- Where screenshots go and how they are taken. -/
structure Camera where
  directory : Path
  imageType : String
  quality : Int
  fullPage : Bool

def Camera.ofSettings (settings : Settings) : Camera where
  directory := settings .screenshotsDir
  imageType := settings .screenshotType
  quality := settings .screenshotQuality
  fullPage := settings .screenshotFullPage

variable {τ : Type} [Clock τ]

namespace Camera

/-- Only one format has a quality. -/
def qualityFor (c : Camera) : Option Int := if c.imageType = "jpeg" then some c.quality else none

/-- How a screenshot is taken into a file. -/
def exposure (c : Camera) (path : Path) : Capture where
  path := path.text
  fullPage := c.fullPage
  imageType := some c.imageType
  quality := c.qualityFor

/-- Where a screenshot of a moment goes. -/
def fileFor (c : Camera) (label : String) (attempt : Option Int) (m : Moment) : Path :=
  c.directory.resolve (fileName label attempt c.imageType m)

/-- Makes the directory and takes the screenshot. -/
def shoot (c : Camera) (page : Nat) (path : Path) : Play τ Unit := do
  Play.fileWork (·.makeDirectory c.directory)
  Browser.screenshot page path (c.exposure path)

/-- Takes a screenshot of a page, if there is one and it is open; gives the file it went to. -/
def capture (c : Camera) (page : Option Nat) (label : String) (attempt : Option Int) :
    Play τ (Option Path) := do
  match page with
  | none => return none
  | some page =>
    if ← Play.look (·.isClosed page) then return none
    let path := c.fileFor label attempt (← Play.moment)
    match ← Play.attempt (c.shoot page path) with
    | .ok () => return some path
    | .error _ => return none

end Camera

/-- What a record says besides where its screenshot is. -/
structure Caption where
  step : String
  action : Option String := none
  selector : Value := .null
  error : Option String := none

/-- The record, made at a moment, of a screenshot in a file. -/
def Caption.recordOf (caption : Caption) (path : Path) (m : Moment) : Record where
  step := caption.step
  action := caption.action
  fileName := path.name
  timestamp := m.iso
  selector := caption.selector
  error := caption.error

/-- Takes a screenshot and puts it into the ledger. -/
def Camera.record (c : Camera) (page : Option Nat) (caption : Caption) (attempt : Option Int) :
    Play τ (Option Record) := do
  match ← c.capture page caption.step attempt with
  | none => return none
  | some path =>
    let record := caption.recordOf path (← Play.moment)
    Play.change fun s => { s with ledger := record :: s.ledger }
    return some record

end Rehearsal.Screenshot
