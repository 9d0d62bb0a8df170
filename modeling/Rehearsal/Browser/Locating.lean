import Rehearsal.Browser.Page
/-!
Calls through locators. A locator stands for the elements that match its selector when the call is
made, visible or not, or for one of them by its index.
-/
namespace Rehearsal.Browser

variable {τ : Type} [Clock τ]

def callLocator (id : Nat) (l : Locator) (c : LocatorCall) : Play τ Unit :=
  enter id (.locator id l c) c.name

/-- The elements a locator stands for. -/
def located (id : Nat) (l : Locator) : Play τ (List (Nat × Element (Effect τ))) := do
  let all := (← elements id).filter fun (_, e) => e.matchesSelector l.selector
  match l.index with
  | none => return all
  | some i => return (all.drop i).take 1

/-- The first of them. -/
def locate (id : Nat) (l : Locator) (timeout : Option Int) : Play τ (Nat × Element (Effect τ)) := do
  match ← located id l with
  | found :: _ => return found
  | [] =>
    let limit := match timeout with
      | some n => toString n
      | none => "None"
    timeOut ("Timeout " ++ limit ++ "ms exceeded waiting for locator " ++ l.selector)

/-- How many elements a locator stands for. -/
def count (id : Nat) (l : Locator) : Play τ Nat := do
  callLocator id l .count
  return (← located id l).length

/-- A locator for each of the elements. -/
def all (id : Nat) (selector : String) : Play τ (List Locator) := do
  callLocator id { selector } .all
  let n := (← located id { selector }).length
  return (List.range n).map fun i => { selector, index := some i }

def clickLocated (id : Nat) (l : Locator) (timeout : Option Int) : Play τ Unit := do
  callLocator id l (.click timeout)
  clickElement id (← locate id l timeout)

def fillLocated (id : Nat) (l : Locator) (value : String) (timeout : Option Int) : Play τ Unit := do
  callLocator id l (.fill value timeout)
  fillElement id (← locate id l timeout) value

def textOf (id : Nat) (l : Locator) : Play τ (Option String) := do
  callLocator id l .textContent
  return (← locate id l none).2.text

/-- The value that an element holds. -/
def valueOf (id : Nat) (l : Locator) : Play τ (Option String) := do
  callLocator id l (.getAttribute "value")
  return (← locate id l none).2.value

end Rehearsal.Browser
