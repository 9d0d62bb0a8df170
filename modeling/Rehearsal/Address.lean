import Rehearsal.Address.Host
import Rehearsal.Text.Quoted
/-!
Addresses of services. An address may start with a scheme and a colon; its authority stands between
two slashes and the next slash, question mark or number sign. A debugging endpoint tells its version
at a fixed path, over HTTP even where the endpoint itself is a web socket.
-/
namespace Rehearsal

inductive AddressFault where
  | brackets
  | laterVersion
  | notNumeric (host : String)
  | version4InBrackets
  | compatibility (authority : String)
  | emptyLabel
  | longLabel
  | badPort (port : String)
  | portOutOfRange
deriving Repr, DecidableEq

def AddressFault.message : AddressFault → String
  | brackets => "Invalid IPv6 URL"
  | laterVersion => "IPvFuture address is invalid"
  | notNumeric host => Text.quoted host ++ " does not appear to be an IPv4 or IPv6 address"
  | version4InBrackets => "An IPv4 address cannot be in brackets"
  | compatibility authority =>
    "netloc '" ++ authority ++ "' contains invalid characters under NFKC normalization"
  | emptyLabel => badLabel "label empty or too long"
  | longLabel => badLabel "label too long"
  | badPort port => "Port could not be cast to integer value as " ++ Text.quoted port
  | portOutOfRange => "Port out of range 0-65535"
where
  badLabel (reason : String) : String :=
    "encoding with 'idna' codec failed (UnicodeError: " ++ reason ++ ")"

namespace Address
open Rehearsal.Text

/-- Control characters and spaces in front go, and tabs and line ends everywhere. -/
def clean (s : List Char) : List Char :=
  (s.dropWhile fun c => c.toNat ≤ 32).filter fun c => c != '\t' && c != '\r' && c != '\n'

def isSchemeChar (c : Char) : Bool := c.isAlphanum || c == '+' || c == '-' || c == '.'

/-- The scheme in lower case, empty if there is none, and what follows it. -/
def splitScheme (s : List Char) : List Char × List Char :=
  match cutAt ':' s with
  | some (c :: scheme, rest) =>
    if c.isAlpha && scheme.all isSchemeChar then ((c :: scheme).map Char.toLower, rest) else ([], s)
  | _ => ([], s)

/-- What stands between two slashes and the end of the authority. -/
def authorityOf (s : List Char) : List Char :=
  match s with
  | '/' :: '/' :: rest => rest.takeWhile fun c => c != '/' && c != '?' && c != '#'
  | _ => []

/-- What follows the last at sign. -/
def afterUser (s : List Char) : List Char := (s.reverse.takeWhile (· != '@')).reverse

/-- A bracketed host holds a version 6 or a later address. -/
def checkNumeric (host : List Char) : Except AddressFault Unit :=
  if host.head? = some 'v' then
    if isLaterVersion host then .ok () else .error .laterVersion
  else if isVersion4 host then .error .version4InBrackets
  else if isVersion6 host then .ok ()
  else .error (.notNumeric (String.ofList host))

/-- Nothing stands before the brackets of a host; what stands after them starts with a colon. -/
def checkBracketed (authority : List Char) : Except AddressFault Unit :=
  let place := afterUser authority
  match cutAt '[' place with
  | none => checkNumeric (place.takeWhile (· != ':'))
  | some (before, inside) =>
    let after := match cutAt ']' inside with
      | some (_, after) => after
      | none => []
    if !before.isEmpty || !(after.isEmpty || after.head? == some ':') then .error .brackets
    else checkNumeric (inside.takeWhile (· != ']'))

/-- Characters that stand for a slash, a question mark, a number sign, an at sign or a colon. -/
def compatible : List Nat :=
  [0x2047, 0x2048, 0x2049, 0x2100, 0x2101, 0x2105, 0x2106, 0x2A74, 0xFE13, 0xFE16, 0xFE55, 0xFE56,
    0xFE5F, 0xFE6B, 0xFF03, 0xFF0F, 0xFF1A, 0xFF1F, 0xFF20]

def checkAuthority (authority : List Char) : Except AddressFault Unit :=
  let opens := authority.contains '['
  let closes := authority.contains ']'
  let brackets := if opens != closes then .error .brackets
    else if opens then checkBracketed authority
    else .ok ()
  match brackets with
  | .error f => .error f
  | .ok () =>
    if authority.any fun c => compatible.contains c.toNat then
      .error (.compatibility (String.ofList authority))
    else .ok ()

/-- Host and port of an authority; both may be empty. -/
def hostAndPort (authority : List Char) : List Char × List Char :=
  let afterColon (s : List Char) : List Char := (s.dropWhile (· != ':')).drop 1
  let place := afterUser authority
  match cutAt '[' place with
  | some (_, inside) =>
    (inside.takeWhile (· != ']'), afterColon ((inside.dropWhile (· != ']')).drop 1))
  | none => (place.takeWhile (· != ':'), afterColon place)

/-- The labels of an ASCII host are not too long, and only the last may be empty. -/
def checkHost (host : List Char) : Except AddressFault Unit :=
  let labels := pieces '.' host
  if host.isEmpty || !host.all (·.toNat < 128) then .ok ()
  else if labels.dropLast.any fun l => l.isEmpty || 64 ≤ l.length then .error .emptyLabel
  else if labels.getLast?.any (64 ≤ ·.length) then .error .longLabel
  else .ok ()

def checkPort (port : List Char) : Except AddressFault Unit :=
  if !port.all Decimal.isDigit then .error (.badPort (String.ofList port))
  else if 65535 < Decimal.digitsValue port then .error .portOutOfRange
  else .ok ()

/-- Scheme and authority of an address. -/
def split (address : String) : Except AddressFault (String × String) :=
  let (scheme, rest) := splitScheme (clean address.toList)
  let authority := authorityOf rest
  match checkAuthority authority with
  | .error f => .error f
  | .ok () => .ok (String.ofList scheme, String.ofList authority)

/-- The scheme over which an endpoint answers requests. -/
def requestScheme (scheme : String) : String :=
  if scheme = "ws" then "http" else if scheme = "wss" then "https"
  else if scheme = "" then "http" else scheme

/-- Where an endpoint tells its version; empty for an address without an authority. -/
def versionUrl (endpoint : String) : Except AddressFault String :=
  match split endpoint with
  | .error f => .error f
  | .ok (scheme, authority) =>
    .ok <| if authority = "" then "" else
      requestScheme scheme ++ "://" ++ authority ++ "/json/version"

end Address
end Rehearsal
