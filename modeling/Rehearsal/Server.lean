import Rehearsal.Action.Request
import Rehearsal.Json
import Rehearsal.Run
import Rehearsal.Screenshot.Store
import Rehearsal.Server.Route
import Rehearsal.Text.Encoding
/-!
The server through which playbooks are run and screenshots are looked at. Its answers are data: a
status, a body, and who may ask from where. A request to run a playbook is checked before anything
is started.
-/
namespace Rehearsal.Server

inductive Body where
  | empty
  | json (v : Value)
  /-- A file of a type, by its number of bytes. -/
  | file (type : String) (length : Nat)
  /-- The dashboard, which refreshes itself after so many milliseconds. -/
  | dashboard (refresh : Int)

structure Reply where
  status : Nat
  body : Body

/-- What a request carries. -/
inductive Payload where
  | nothing
  | raw (contentType : String) (bytes : List Nat)
  /-- Data that has been read already. -/
  | ready (contentType : String) (v : Value)

structure Request where
  method : String
  path : String
  payload : Payload

def ok (fields : List (String × Value)) : Reply := ⟨200, .json (.object fields)⟩

def error (status : Nat) (fields : List (String × Value)) : Reply :=
  ⟨status, .json (.object fields)⟩

/-- A type of content without its parameters, in lower case. -/
def mediaType (contentType : String) : String :=
  Text.lower (Text.trim (String.ofList (contentType.toList.takeWhile (· != ';'))))

def isJson (contentType : String) : Bool :=
  let t := mediaType contentType
  t = "application/json" || (Text.startsWith t "application/" && Text.endsWith t "+json")

/-- The type of the content, empty when there is none. -/
def Payload.contentType : Payload → String
  | nothing => ""
  | raw type _ | ready type _ => type

/-- The value that bytes spell; null when they are not JSON, but not when they are too deep. -/
def readJson (bytes : List Nat) : Except Json.Fault Value :=
  match Text.decode? bytes with
  | none => .ok .null
  | some text => match Json.parse text with
    | .error .malformed => .ok .null
    | read => read

/-- The data of a request; null for none and for other types. -/
def Payload.data : Payload → Except Json.Fault Value
  | nothing => .ok .null
  | raw type bytes => if isJson type then readJson bytes else .ok .null
  | ready type v => .ok (if isJson type then v else .null)

def placeValue : Validation.Place → Value
  | .key name => .text name
  | .index n => .int n

/-- Faults as they are told. -/
def faultsValue (faults : List Validation.Fault) : Value :=
  .list (faults.map fun f => .object [("type", .text f.cause.code),
    ("loc", .list (f.place.map placeValue)), ("msg", .text f.cause.message)])

/-- What the type of a file is, judging by its name. A scheme in front of the name does not count,
unless it says that the name is the content. -/
def fileType (name : String) : String :=
  let (scheme, base) := match Text.cutAt ':' name.toList with
    | some (c :: scheme, rest) => ((c :: scheme).map Char.toLower, rest)
    | _ => ([], name.toList)
  let stem := base.dropWhile (· == '.')
  let ending := (stem.reverse.takeWhile (· != '.')).reverse.map Char.toLower
  if scheme = ['d', 'a', 't', 'a'] then
    (if base.contains ',' then "text/plain" else "application/octet-stream")
  else if !stem.contains '.' then "application/octet-stream"
  else if ending = ['p', 'n', 'g'] then "image/png"
  else "image/jpeg"

/-- Can the text be part of a header? -/
def isHeaderText (s : String) : Bool := !s.toList.any fun c => c == '\n' || c == '\r'

/-- The current moment as answers tell it. -/
def timestamp : Play Float String := do return (← Play.moment).iso ++ "+00:00"

/-- The answer to a failure that nobody expected. -/
def unexpected (message : String) : Play Float Reply := do
  return error 500 [("error", .text "Internal server error"), ("message", .text message),
    ("correlation_id", .text "00000000"), ("timestamp", .text (← timestamp))]

/-- An answer; in place of one that fails, the answer to its failure, and if even that fails, a bare
status. -/
def guarded (p : Play Float Reply) : Play Float Reply :=
  Play.orElse p fun f => Play.orElse (unexpected f.message) fun _ => return ⟨500, .empty⟩

def notFound (path : String) : Play Float Reply := do
  return error 404 [("error", .text "Route not found"), ("path", .text path),
    ("timestamp", .text (← timestamp))]

def index : Play Float Reply := do
  return ok [("status", .text "online"), ("service", .text "Playwright Scraper API"),
    ("version", .text "2.0.0"), ("timestamp", .text (← timestamp)),
    ("endpoints", .object [("scraper", .text "POST /executar"),
      ("screenshots", .text "GET /screenshots"), ("debug_dashboard", .text "GET /debug"),
      ("health", .text "GET /health")])]

/-- What the caller of a failed run is told. -/
def runFailure (f : RunFailure) : Reply :=
  let common := [("error", .text "Scraping failed"), ("details", .text f.cause.message),
    ("screenshots", .list (f.records.map fun r => .object r.toFields))]
  error 500 <| match f.cause with
    | .actionFailed index type _ _ => common ++ [("index", .int index), ("action", .text type)]
    | _ => common

/-- The fields of a request to run a playbook: an address and a list of actions. -/
def runFields (fields : Fields) : Option (Value × Value) :=
  let url := (fields.lookup "url").getD .null
  match fields.lookup "actions" with
  | some (.list items) => if url.truthy then some (url, .list items) else none
  | _ => none

/-- Runs a playbook that has been read. -/
def runRequest (settings : Settings) (r : Rehearsal.Request) : Play Float Reply := do
  match ← Run.ofItems settings (.text r.url) (r.actions.map .ready) with
  | .ok result => return ok result.report
  | .error f => return runFailure f

/-- Checks a request to run a playbook, and runs it. -/
def run (settings : Settings) (data : Value) : Play Float Reply :=
  match data with
  | .object fields => match runFields fields with
    | none => return invalid
    | some (url, actions) =>
      match Request.ofFields [("url", url), ("actions", actions)] with
      | .ok r => runRequest settings r
      | .error faults =>
        return error 400 [("error", .text "Invalid actions"), ("details", faultsValue faults)]
  | v =>
    if v.truthy then unexpected ("'" ++ v.kindName ++ "' object has no attribute 'get'")
    else return invalid
where
  invalid : Reply :=
    error 400 [("error", .text "Invalid parameters. Send \x7b url, actions[] \x7d")]

/-- What a listing tells of an entry, but for the time at which its file was created. -/
def entryFields (e : Screenshot.Entry) : List (String × Value) :=
  [("filename", .text e.name), ("url", .text e.url),
    ("size", .text (Screenshot.sizeText (Screenshot.kibibytes e.size))),
    ("modified", .text e.modifiedText), ("modified_timestamp", .int e.modified)]

/-- Answers with what the files tell. -/
def fromFiles {α : Type} (read : Files → Except Failure α) (answer : α → Play Float Reply) :
    Play Float Reply := do
  answer (← Play.ofExcept (read (← Play.look (·.files))))

def listScreenshots (settings : Settings) : Play Float Reply :=
  fromFiles (Screenshot.listing · (settings .screenshotsDir)) fun entries =>
    return ok [("total", .int entries.length),
      ("screenshots", .list (entries.map fun e => .object (entryFields e)))]

def clearScreenshots (settings : Settings) : Play Float Reply :=
  fromFiles (Screenshot.clear · (settings .screenshotsDir)) fun (n, files) => do
    Play.change fun s => { s with files }
    return ok [("message", .text (toString n ++ " screenshots deleted")), ("deleted", .int n),
      ("total", .int n)]

/-- The stored file that a name resolves to. -/
def storedFile (directory : Path) (name : String) (fs : Files) : Except Failure (Option File) :=
  match Screenshot.resolve fs directory name with
  | .error f => .error f
  | .ok none => .ok none
  | .ok (some path) => ((fs.node? path).mapError Failure.file).map fun
    | some (.file f) => some f
    | _ => none

def serveScreenshot (settings : Settings) (name : String) : Play Float Reply :=
  if !Screenshot.isImage name then
    return error 400 [("error", .text ("Only " ++ String.intercalate ", " Screenshot.imageEndings ++
      " files are allowed"))]
  else fromFiles (storedFile (settings .screenshotsDir) name) fun
    | some f =>
      if isHeaderText name then return ⟨200, .file (fileType name) f.content.size⟩
      else Play.fail .brokenHeader
    | none => return error 404 [("error", .text "Screenshot not found")]

def health (settings : Settings) : Play Float Reply :=
  fromFiles (Screenshot.stats · (settings .screenshotsDir)) fun stats => do
    let uptime ← Play.look fun s => Decimal.roundTo 3 (s.wall - Float.ofInt s.epoch)
    return ok [("status", .text "healthy"), ("timestamp", .text (← timestamp)),
      ("uptime", .float uptime), ("screenshots", .object [("count", .int stats.count),
        ("directory_exists", .flag stats.present)])]

/-- What a resource answers. -/
def answer (settings : Settings) (method : String) (r : Request) (path : String) :
    Resource → Play Float Reply
  | .index => index
  | .runs => match r.payload.data with
    | .ok data => run settings data
    | .error f => unexpected f.message
  | .screenshots =>
    if method = "DELETE" then clearScreenshots settings else listScreenshots settings
  | .screenshot name => serveScreenshot settings name
  | .health => health settings
  | .dashboard => return ⟨200, .dashboard (settings .dashboardRefresh)⟩
  | .asset _ => notFound path

/-- What a request is answered, by its method in upper case. -/
def reply (settings : Settings) (method : String) (r : Request) : Play Float Reply :=
  let path := pathOf r.path
  match route method path with
  | .found resource => guarded (answer settings method r path resource)
  | .options => return ⟨200, .empty⟩
  | .redirected => return ⟨308, .empty⟩
  | .refused => return ⟨405, .empty⟩
  | .missing => guarded (notFound (toldPath path))

/-- What is left of a body without its content. -/
def Body.head : Body → Body
  | file type _ => file type 0
  | _ => empty

/-- A head request is answered without content. -/
def forMethod (method : String) (r : Reply) : Reply :=
  if method = "HEAD" then { r with body := r.body.head } else r

/-- A reply, and the headers that say who may ask from where. -/
structure Answer where
  reply : Reply
  crossOrigin : List (String × Value)

/-- Who may ask, which methods there are, and which headers may come along. -/
def crossOrigin (settings : Settings) : List (String × Value) :=
  [("Origin", .text (settings .corsOrigin)), ("Methods", .text "GET, POST, PUT, DELETE, OPTIONS"),
    ("Headers", .text "Content-Type, Authorization")]

/-- Every reply says who may ask. Where that cannot be said in a header, all that is left is a bare
status. -/
def withCrossOrigin (settings : Settings) (r : Reply) : Answer :=
  if isHeaderText (settings .corsOrigin) then ⟨r, crossOrigin settings⟩ else ⟨⟨500, .empty⟩, []⟩

/-- Can the request be made at all? -/
def Request.check (r : Request) : Except Failure Unit :=
  match checkTarget r.path with
  | .error f => .error (.address f)
  | .ok () => if isHeaderText r.payload.contentType then .ok () else .error .brokenHeader

/-- Answers a request. Methods count without regard to case. -/
def handle (settings : Settings) (r : Request) : Play Float Answer := do
  Play.ofExcept r.check
  let reply ← reply settings (Text.upper r.method) r
  return withCrossOrigin settings (forMethod r.method reply)

end Rehearsal.Server
