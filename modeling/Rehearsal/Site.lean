import Rehearsal.Action
import Rehearsal.Address.Mention
import Rehearsal.Selector.Predicate
/-!
What is known about particular sites. A site tells by its host which pages are its own, adds hints
about the target of a click, and names the host on which its popups open. The one kind of site with
knowledge of its own is the account chooser of an identity provider; a plain site knows nothing.
-/
namespace Rehearsal

/-- An identity provider at `host` on which `account` signs in. The pause before its form is sent
lasts `submitDelay` seconds. -/
structure AccountChooser where
  host : String
  account : String
  submitDelay : Float := 1

inductive Site where
  | plain
  | accountChooser (a : AccountChooser)

namespace AccountChooser
open Rehearsal.Text

/-- The attribute by which an entry of the chooser names its account. -/
def accountAttribute : String := "data-email"

/-- What the address of an identifier form contains. -/
def loginMarkers : List String := ["signin/identifier", "signin/v2/identifier"]

def identifierField : String := "input[type=\"email\"], #identifierId"

def nextButton : String :=
  "button:has-text(\"Próximo\"), button:has-text(\"Next\"), button:has-text(\"Continuar\"), " ++
    "button[id*=\"next\"], button[id*=\"Next\"], [jsname=\"LgbsSe\"], button[type=\"submit\"], " ++
    "#identifierNext, [data-primary=\"true\"]"

/-- Does the address mention the host? An empty host is mentioned nowhere, and an address that does
not count as present mentions nothing. -/
def matchesUrl (a : AccountChooser) (url : Value) : Except Failure Bool :=
  if a.host = "" || !url.truthy then .ok false else Address.mentions url a.host

def isLoginPage (url : Value) : Except Failure Bool :=
  if url.truthy then Address.mentionsAny url loginMarkers else .ok false

/-- Is the expression about an entry of the chooser? -/
def selectsAccount (xpath : String) : Bool := contains xpath accountAttribute

/-- The account an expression asks for, else the site's own. -/
def accountFor (a : AccountChooser) (xpath : String) : String :=
  (Selector.valueOf accountAttribute xpath).getD a.account

def hintsFor (a : AccountChooser) (xpath : String) : Option Hints :=
  let account := a.accountFor xpath
  if !selectsAccount xpath || account = "" then none
  else some { text := some account, attributes := [(accountAttribute, account)] }

end AccountChooser

namespace Site

def name : Site → String
  | plain => "base"
  | accountChooser _ => "account_chooser"

def popupDomains : Site → List String
  | plain => []
  | accountChooser a => [a.host]

def matchesUrl (s : Site) (url : Value) : Except Failure Bool :=
  match s with
  | plain => .ok false
  | accountChooser a => a.matchesUrl url

def hintsFor (s : Site) (xpath : String) : Option Hints :=
  match s with
  | plain => none
  | accountChooser a => a.hintsFor xpath

/-- The first site whose page this is. -/
def find (sites : List Site) (url : Value) : Except Failure (Option Site) :=
  Failure.findFirst (·.matchesUrl url) sites

/-- Only an address that is no text cannot be looked up. -/
theorem find_error {sites : List Site} {url : Value} {f : Failure}
    (h : find sites url = .error f) : Address.Unsearchable url f := by
  obtain ⟨site, -, failed⟩ := Failure.findFirst_error h
  cases site with
  | plain => cases failed
  | accountChooser a =>
    unfold matchesUrl AccountChooser.matchesUrl at failed
    dsimp only at failed
    split at failed
    · cases failed
    · exact Address.mentions_error failed

/-- The hosts of all popups, each once. -/
def domains (sites : List Site) : List String := (sites.flatMap popupDomains).eraseDups

end Site

namespace Click

/-- What is known about a click's target on a site: its own hints, then those of its expression,
then those of the site. -/
def hintsOn (c : Click) (site : Option Site) : Hints :=
  let inferred := Hints.infer c.xpath
  let own := match c.hints with
    | some h => h.merge inferred
    | none => inferred
  own.mergeOption (site.bind (·.hintsFor c.xpath))

/-- What is known about a click's target on the page with an address. -/
def resolveHints (c : Click) (sites : List Site) (url : Value) : Except Failure Hints :=
  (Site.find sites url).map c.hintsOn

end Click
end Rehearsal
