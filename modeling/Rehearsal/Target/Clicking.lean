import Rehearsal.Browser.Locating
import Rehearsal.Browser.Stability
import Rehearsal.Selector.Fallback
import Rehearsal.Settings
import Rehearsal.Site
/-!
Clicking a target. Each attempt first lets the site of the page do the click in its own way, then
waits for the target to be visible and clicks it. Between two attempts the page is reloaded; after
the last one the fallbacks are tried, each at most once, until one clicks.
-/
namespace Rehearsal.Target

/-- The times and limits of a click; `τ` are spans of time. -/
structure ClickPlan (τ : Type) where
  attempts : Int
  visibleTimeout : Int
  clickTimeout : Int
  retryDelay : τ
  settleDelay : τ

def ClickPlan.ofSettings (settings : Settings) : ClickPlan Float where
  attempts := settings .clickAttempts
  visibleTimeout := settings .clickVisibleTimeout
  clickTimeout := settings .clickTimeout
  retryDelay := settings .clickRetryDelay
  settleDelay := settings .reloadSettleDelay

/-- There is always one attempt. -/
def ClickPlan.rounds {τ : Type} (plan : ClickPlan τ) : Nat := max 1 plan.attempts.toNat

variable {τ : Type} [Clock τ]

/-- The account chooser's way: on its identifier form the account is entered and sent. Tells
whether it has done the click. -/
def signIn (a : AccountChooser) (submitDelay : τ) (page : Nat) (c : Click) : Play τ Bool := do
  if a.account = "" || !AccountChooser.selectsAccount c.xpath then return false
  if !(← Play.examine fun s => AccountChooser.isLoginPage (s.url page)) then return false
  let field : Locator := { selector := AccountChooser.identifierField, index := some 0 }
  if (← Browser.count page field) = 0 then return false
  Browser.fillLocated page field a.account none
  Play.pause submitDelay
  let button : Locator := { selector := AccountChooser.nextButton, index := some 0 }
  if (← Browser.count page button) = 0 then return false
  Browser.clickLocated page button none
  return true

/-- The site's own way of doing a click. -/
def siteClick (site : Site) (page : Nat) (c : Click) : Play Float Bool :=
  match site with
  | .plain => return false
  | .accountChooser a => signIn a a.submitDelay page c

/-- Waits for the target and clicks it. -/
def directClick (plan : ClickPlan τ) (page : Nat) (c : Click) : Play τ Unit := do
  let selector := Selector.ofExpression c.xpath
  Browser.waitForSelector page selector plan.visibleTimeout
  Browser.click page selector plan.clickTimeout

/-- Clicks the first of some elements whose text contains the given one. -/
def clickContaining (timeout : Int) (page : Nat) (text : String) : List Locator → Play τ Bool
  | [] => return false
  | l :: rest => do
    let content := (← Browser.textOf page l).getD ""
    if content ≠ "" && Text.contains content text then
      Browser.clickLocated page l (some timeout)
      return true
    clickContaining timeout page text rest

/-- Looks through all containers for a text that is not empty. -/
def scan (timeout : Int) (page : Nat) (container text : String) : Play τ Bool := do
  if text = "" then return false
  clickContaining timeout page text (← Browser.all page container)

/-- Clicks the first element of a selector, if there is one. -/
def clickFirst (timeout : Int) (page : Nat) (selector : String) : Play τ Bool := do
  if (← Browser.count page { selector }) = 0 then return false
  Browser.clickLocated page { selector, index := some 0 } (some timeout)
  return true

def tryFallback (timeout : Int) (page : Nat) : Fallback → Play τ Bool
  | .scan container text => scan timeout page container text
  | f => clickFirst timeout page f.target

/-- Tries fallbacks in order until one clicks; one that fails counts like one that finds nothing. -/
def tryFallbacks (timeout : Int) (page : Nat) : List Fallback → Play τ Bool
  | [] => return false
  | f :: rest => do
    match ← Play.attempt (tryFallback timeout page f) with
    | .ok true => return true
    | _ => tryFallbacks timeout page rest

/-- A reload between two attempts, with its pauses. -/
def refresh (plan : ClickPlan τ) (page : Nat) : Play τ Unit := do
  Play.sleep plan.retryDelay
  let _ ← Browser.safeReload page
  Play.sleep plan.settleDelay

/-- One attempt; `own` is the way of the page's site. -/
def tryClick (plan : ClickPlan τ) (own : Play τ Bool) (page : Nat) (c : Click) : Play τ Unit := do
  if ← own then return
  directClick plan page c

/-- Makes attempts until one succeeds; gives the failure of the last one if none does. Before each,
`own` looks up the way of the page's site; an attempt that cannot even do that ends the click. -/
def attempts (plan : ClickPlan τ) (own : Stage τ → Except Failure (Play τ Bool)) (page : Nat)
    (c : Click) : Nat → Play τ (Option Failure)
  | 0 => return none
  | more + 1 => do
    let way ← Play.examine own
    match ← Play.attempt (tryClick plan way page c) with
    | .ok () => return none
    | .error f =>
      if more = 0 then return some f
      refresh plan page
      attempts plan own page c more

/-- The way in which the page's site does the click; a page of no site has none. -/
def ownClick (sites : List Site) (page : Nat) (c : Click) (s : Stage Float) :
    Except Failure (Play Float Bool) :=
  (Site.find sites (s.url page)).map fun
    | some site => siteClick site page c
    | none => return false

/-- A page whose site has a way of its own is that of an account chooser. -/
theorem ownClick_cases {sites : List Site} {page : Nat} {c : Click} {s : Stage Float}
    {way : Play Float Bool} (h : ownClick sites page c s = .ok way) : way = pure false ∨
      ∃ a, Site.find sites (s.url page) = .ok (some (.accountChooser a)) ∧
        way = signIn a a.submitDelay page c := by
  unfold ownClick at h
  rcases hf : Site.find sites (s.url page) with f | _ | site <;> rw [hf] at h <;> cases h
  · exact .inl rfl
  · cases site with
    | plain => exact .inl rfl
    | accountChooser a => exact .inr ⟨a, rfl, rfl⟩

/-- Clicks a target; `own` looks up the way of the page's site. -/
def clickWith (plan : ClickPlan τ) (own : Stage τ → Except Failure (Play τ Bool))
    (sites : List Site) (page : Nat) (c : Click) : Play τ Unit := do
  match ← attempts plan own page c plan.rounds with
  | none => return
  | some f =>
    let hints ← Play.examine fun s => c.resolveHints sites (s.url page)
    if ← tryFallbacks plan.clickTimeout page (hints.fallbacks c.xpath) then return
    Play.fail (.engine (.elementNotFound c.xpath ("Element not found after " ++
      toString plan.rounds ++ " attempts: " ++ c.xpath ++ " (" ++ f.message ++ ")")))

def click (plan : ClickPlan Float) (sites : List Site) (page : Nat) (c : Click) : Play Float Unit :=
  clickWith plan (ownClick sites page c) sites page c

end Rehearsal.Target
