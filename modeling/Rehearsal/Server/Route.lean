import Rehearsal.Address
import Rehearsal.Text.Bytes
import Rehearsal.Text.Case
/-!
Which resource of the server a request is for. The path of a request is what its address has between
the authority and the query, with percent escapes decoded; a path that fits a resource only once
runs of slashes are single slashes, and a missing path, lead to a redirection. A resource that
exists is refused to methods that it does not have.
-/
namespace Rehearsal.Server
open Rehearsal.Text

inductive Resource where
  | index
  | runs
  | screenshots
  | screenshot (name : String)
  | health
  | dashboard
  | asset (name : String)
deriving Repr, DecidableEq

/-- The methods that a resource has, besides asking for its options. -/
def Resource.methods : Resource → List String
  | runs => ["POST"]
  | screenshots => ["GET", "HEAD", "DELETE"]
  | _ => ["GET", "HEAD"]

/-- Decodes percent escapes to bytes; other characters give their own bytes. -/
def unescape : List Char → List Nat
  | '%' :: a :: b :: rest =>
    if Address.isHex a && Address.isHex b then hexNumber [a, b] :: unescape rest
    else bytesOf "%" ++ unescape (a :: b :: rest)
  | c :: rest => bytesOf (String.singleton c) ++ unescape rest
  | [] => []

/-- What stands between the authority of an address and its query. -/
def rawPath (s : List Char) : List Char :=
  let (_, rest) := Address.splitScheme (Address.clean s)
  let rest := match rest with
    | '/' :: '/' :: rest => rest.dropWhile fun c => c != '/' && c != '?' && c != '#'
    | rest => rest
  rest.takeWhile fun c => c != '?' && c != '#'

/-- The path of a request, with one slash in front; empty when the address has no path. -/
def pathOf (target : String) : String :=
  let decoded := ofBytes (unescape (rawPath (rawPath target.toList)))
  if decoded = "" then "" else String.ofList ('/' :: decoded.toList.dropWhile (· == '/'))

/-- The path as answers tell it. -/
def toldPath (path : String) : String := if path = "" then "/" else path

/-- Can the target be requested? Its authority must be good, and so must the one its path has. -/
def checkTarget (target : String) : Except AddressFault Unit := do
  let authorityOf (s : List Char) := Address.authorityOf (Address.splitScheme (Address.clean s)).2
  let authority := authorityOf target.toList
  Address.checkAuthority authority
  Address.checkAuthority (authorityOf (rawPath target.toList))
  let (host, port) := Address.hostAndPort authority
  Address.checkHost host
  Address.checkPort port

/-- What follows a directory in a path: it does not start with a slash, and no line ends after its
first character. -/
def below (directory path : String) : Option String :=
  if startsWith path (directory ++ "/") then
    match path.toList.drop (directory.length + 1) with
    | [] => none
    | c :: rest => if c == '/' || rest.contains '\n' then none else some (String.ofList (c :: rest))
  else none

/-- The resource at a path. -/
def resourceAt (path : String) : Option Resource :=
  if path = "/" then some .index
  else if path = "/executar" then some .runs
  else if path = "/screenshots" then some .screenshots
  else if path = "/health" then some .health
  else if path = "/debug" then some .dashboard
  else match below "/screenshots" path, below "/static" path with
    | some name, _ => some (.screenshot name)
    | none, some name => some (.asset name)
    | none, none => none

/-- Makes each run of slashes one slash. -/
def mergeSlashes : List Char → List Char
  | '/' :: '/' :: rest => mergeSlashes ('/' :: rest)
  | c :: rest => c :: mergeSlashes rest
  | [] => []

inductive Route where
  | found (r : Resource)
  /-- The resource has options to tell. -/
  | options
  | redirected
  | refused
  | missing
deriving Repr, DecidableEq

def Resource.allows (r : Resource) (method : String) : Bool :=
  method = "OPTIONS" || r.methods.contains method

/-- How a request is routed. A missing path leads to the index, for the methods that it has. -/
def route (method path : String) : Route :=
  if path = "" then (if Resource.index.allows method then .redirected else .missing)
  else match resourceAt path with
    | some r =>
      if method = "OPTIONS" then .options else if r.allows method then .found r else .refused
    | none => match resourceAt (String.ofList (mergeSlashes path.toList)) with
      | some r => if r.allows method then .redirected else .refused
      | none => .missing

end Rehearsal.Server
