import PatchReview.Http
import PatchReview.Json.Document
import PatchReview.Json.Standard
import PatchReview.Json.Writer
import PatchReview.Reviewing
import PatchReview.Server.Interface
import PatchReview.Settings

/-!
# The HTTP server

Two endpoints take changed files: one answers with the findings, the other
with a whole report. A request says which provider and model it wants and
nothing else about them; keys and addresses come from the environment alone.
The server also describes itself, as JSON and in pages for readers.
-/

namespace PatchReview.Server

structure HttpRequest where
  method : String
  address : String
  /-- Empty for a request without a body. -/
  body : List UInt8
  deriving Repr

inductive Response where
  | ok (body : Json)
  | invalid (violations : List Schema.Violation)
  | problem (status : Nat) (detail : String)
  /-- An answer with no JSON in it. -/
  | bare (status : Nat)
  deriving Repr

def Response.status : Response → Nat
  | .ok _ => 200
  | .invalid _ => 422
  | .problem status _ | .bare status => status

def version : String := "2.0.0"

structure ReviewOrder where
  files : List ChangedFile
  provider : Option String
  model : Option String
  deriving Repr

def checkFiles (fields : List (String × Json)) : Schema.Checked (List ChangedFile) :=
  Schema.required "files" (Schema.Check.items .list (ChangedFile.checkFrom .request)) fields

def checkAnalysis : Schema.Check (List ChangedFile) :=
  Schema.Check.model .request "AnalyzeRequest" checkFiles

def checkOrder : Schema.Check ReviewOrder :=
  Schema.Check.model .request "ReviewRequest" fun fields =>
    ReviewOrder.mk <$> checkFiles fields
      <*> Schema.optional "provider" Schema.Check.text fields
      <*> Schema.optional "model" Schema.Check.text fields

/-- How the names of fields begin that answers do not show. -/
def hiddenStart : List Char := ['_', 's', 'a']

def notStandard : Failure := .value "Out of range float values are not JSON compliant"

def valueAt : List Schema.Step → Json → Json
  | .field name :: rest, value => valueAt rest ((value.field? name).getD .null)
  | .index n :: rest, .arr items => valueAt rest (items.getD n .null)
  | _, value => value

/-- The value that a violation is about: for a field that is missing, the one
that should have it. -/
def inputOf (value : Json) (violation : Schema.Violation) : Json :=
  match violation.expected with
  | .required => valueAt violation.place.dropLast value
  | _ => valueAt violation.place value

mutual
def shown : Json → Json
  | .arr items => .arr (shownItems items)
  | .obj fields => .obj (shownFields fields)
  | value => value
def shownItems : List Json → List Json
  | [] => []
  | item :: rest => shown item :: shownItems rest
def shownFields : List (String × Json) → List (String × Json)
  | [] => []
  | (name, value) :: rest =>
    if hiddenStart.isPrefixOf name.toList then shownFields rest
    else (name, shown value) :: shownFields rest
end

def stepJson : Schema.Step → Json
  | .field name => .str name
  | .index n => .int n

def violationJson (value : Json) (violation : Schema.Violation) : Json :=
  let context : List (String × Json) :=
    match violation.expected with
    | .oneOf names => [("ctx", .obj [("expected", .str (Schema.options names))])]
    | _ => []
  .obj ([("type", .str violation.expected.code),
    ("loc", .arr (.str "body" :: violation.place.map stepJson)),
    ("msg", .str violation.expected.message), ("input", shown (inputOf value violation))] ++ context)

def checkEncoding (body : Json) : Except Failure Unit :=
  match Utf8.unencodable? body.dense.toList with
  | some fault => .error (.unencodable fault)
  | none => .ok ()

/-- The answer to violations, which shows what they are about. It has to be
standard JSON that can be encoded. -/
def refuse (value : Json) (violations : List Schema.Violation) : Action Session Response := do
  let body := Json.obj [("detail", .arr (violations.map (violationJson value)))]
  if !body.isStandard then throw notStandard
  Action.ofExcept (checkEncoding body)
  return .invalid (violations.map (·.under (.field "body")))

def unreadable : Response := .problem 400 "There was an error parsing the body"

def bodyValue (body : List UInt8) : Except Response Json :=
  if body.isEmpty then .error (.invalid [⟨[.field "body"], .required⟩])
  else
    match Json.documentText? body with
    | none => .error unreadable
    | some text =>
      match Json.read text with
      | .ok value => .ok value
      | .error (.grammar _ left) =>
        .error (.invalid [⟨[.field "body", .index (Json.faultIndex text left)], .decodable⟩])
      | .error _ => .error unreadable

def withBody (check : Schema.Check α) (body : List UInt8) (act : α → Action Session Response) :
    Action Session Response :=
  match bodyValue body with
  | .error response => return response
  | .ok value =>
    match check value with
    | .valid decoded => act decoded
    | .invalid violations => refuse value violations

def noFiles : Response := .problem 400 "files is required"

/-- An answer in standard JSON, of which every text has to be encoded. -/
def respond (body : Json) : Action Session Response :=
  match body.texts.findSome? fun text => Utf8.unencodable? text.toList with
  | some fault => throw (.unwritable fault)
  | none => return .ok body.standard

def tell (status : Nat) (detail : String) : Action Session Response := do
  Action.ofExcept (checkEncoding (.obj [("detail", .str detail)]))
  return .problem status detail

def health : Action Session Response := do
  let settings ← Action.ofExcept (Settings.ofEnvironment (← get).environment none)
  respond (.obj [("status", .str "ok"), ("version", .str version),
    ("provider", .str settings.provider)])

def analyze (files : List ChangedFile) : Action Session Response := do
  if files.isEmpty then return noFiles
  let issues ← analyzeFiles (.inOrder 1) Analyzer.builtIn files
  respond (.obj [("issues", .arr (issues.map (·.toJson))), ("total_issues", .int issues.length)])

/-- Failures of the review itself are answered; others end the request. -/
def answerOf : Except Failure Report → Action Session Response
  | .ok report => respond report.toJson
  | .error failure =>
    if failure.isReviewing then tell 502 failure.message else throw failure

def review (order : ReviewOrder) : Action Session Response := do
  if order.files.isEmpty then return noFiles
  let settings ← Action.ofExcept (Settings.ofEnvironment (← get).environment order.provider)
  let provider ← Provider.choose (some settings.provider) settings.apiKey settings.baseUrl
    ((nonEmpty order.model).or settings.model)
  answerOf (← Action.outcome
    (reviewFiles (.inOrder settings.maxWorkers) order.files (some provider) true))

inductive Endpoint where
  | health
  | analyze
  | review
  /-- The description of the server. -/
  | interface
  /-- A page that shows the description. -/
  | page
  deriving DecidableEq, Repr

def Endpoint.methods : Endpoint → List String
  | .health => ["GET"]
  | .analyze | .review => ["POST"]
  | .interface | .page => ["GET", "HEAD"]

def endpoints : List (String × Endpoint) :=
  [("/health", .health), ("/analyze", .analyze), ("/review", .review),
    ("/openapi.json", .interface), ("/docs", .page), ("/docs/oauth2-redirect", .page),
    ("/redoc", .page)]

/-- The endpoint at a path, with or without slashes at the end. A line feed
before them does not count. -/
def endpoint? (path : List Char) : Option Endpoint :=
  let backward := path.reverse.dropWhile (· == '/')
  let place := match backward with
    | '\n' :: rest => rest
    | _ => backward
  endpoints.lookup (String.ofList place.reverse)

def schemes : List String := ["http", "https", "ws", "wss"]

def pathOf (request : HttpRequest) : Except Failure (List Char) := do
  let address ← (Http.Address.parse request.address.toList).mapError .address
  let scheme := String.ofList address.scheme
  if address.isAbsolute && !schemes.contains scheme then throw (.missingKey scheme)
  return address.serverPath

/-- The answer of the endpoint that a request is for. -/
def answer (request : HttpRequest) : Action Session Response := do
  match endpoint? (← Action.ofExcept (pathOf request)) with
  | none => return .problem 404 "Not Found"
  | some endpoint =>
    if !endpoint.methods.contains request.method then return .problem 405 "Method Not Allowed"
    else
      match endpoint with
      | .interface => respond (Interface.toJson version)
      | .page => return .bare 200
      | .health => health
      | .analyze => withBody checkAnalysis request.body analyze
      | .review => withBody checkOrder request.body review

/-- Answers a request; one for the head of an answer gets no more than that. -/
def handle (request : HttpRequest) : Action Session Response := do
  let response ← answer request
  return if request.method = "HEAD" then .bare response.status else response

end PatchReview.Server
