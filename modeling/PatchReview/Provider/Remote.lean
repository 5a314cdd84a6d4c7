import PatchReview.Http
import PatchReview.Json.Display
import PatchReview.Provider.Payload
import PatchReview.Retry

/-!
# Providers behind a network

Three services write reviews on request. All share the check of the
credential, the retries and the validation of the answer; they differ in what
they are sent and in where the text of an answer is. The client of a service
with one is built when its first request is sent, and kept.
-/

namespace PatchReview

structure Remote where
  service : Service
  apiKey : Option String
  model : String
  policy : Retry.Policy
  /-- Where the service is, for a service that has an address of its own. -/
  baseUrl : String := ""

structure Client where
  isBuilt : Bool := false
  deriving DecidableEq, Repr

namespace Service

def defaultPolicy : Service → Retry.Policy
  | openai | anthropic => { maxAttempts := 3, baseDelay := .ofNat 1, timeout := .ofNat 30 }
  | ollama => { maxAttempts := 3, baseDelay := .ofNat 2, timeout := .ofNat 60 }

end Service

namespace Remote

def defaultBaseUrl : String := "http://localhost:11434"

def maxTokens : Int := 2000

def textOr (fallback : String) : Option String → String
  | some text => if text.isEmpty then fallback else text
  | none => fallback

/-- A provider for a service; what is absent or empty takes its default. -/
def make (service : Service) (apiKey baseUrl model : Option String)
    (policy : Option Retry.Policy) : Remote where
  service := service
  apiKey := match service with
    | .ollama => none
    | _ => apiKey
  model := textOr service.defaultModel model
  policy := policy.getD service.defaultPolicy
  baseUrl := match service with
    | .ollama => Http.withoutTrailingSlashes (textOr defaultBaseUrl baseUrl)
    | _ => ""

def hasCredential (provider : Remote) : Bool := provider.apiKey.any (!·.isEmpty)

/-! ## What is sent -/

def clientSettings (provider : Remote) (timeout : Binary64) : List (String × Json) :=
  match provider.service with
  | .anthropic =>
    [("model", .str provider.model), ("api_key", .ofOption .str provider.apiKey),
      ("temperature", .num (.ofDecimal false 1 (-1))), ("max_tokens", .int maxTokens),
      ("timeout", .num timeout), ("max_retries", .int 0)]
  | _ => [("api_key", .ofOption .str provider.apiKey), ("max_retries", .int 0)]

def buildClient (provider : Remote) (timeout : Binary64) : Action (Client × Session) Unit := do
  let (client, _) ← get
  if !client.isBuilt then
    modify fun (client, session) =>
      ({ client with isBuilt := true },
        session.record (.clientBuilt (provider.clientSettings timeout)))

def completionRequest (provider : Remote) (prompt : String) (timeout : Binary64) :
    List (String × Json) :=
  [("model", .str provider.model),
    ("messages", .arr [.obj [("role", .str "user"), ("content", .str prompt)]]),
    ("response_format", .obj [("type", .str "json_object")]),
    ("max_tokens", .int maxTokens), ("timeout", .num timeout)]

def generateUrl (provider : Remote) : String := provider.baseUrl ++ "/api/generate"

def generateRequest (provider : Remote) (prompt : String) : Json :=
  .obj [("model", .str provider.model), ("prompt", .str prompt), ("stream", .bool false),
    ("format", .str "json")]

def submit (provider : Remote) (prompt : String) (timeout : Binary64) :
    Action (Client × Session) Unit :=
  match provider.service with
  | .openai => do
    provider.buildClient timeout
    Action.onSecond (Session.emit (.completionAsked (provider.completionRequest prompt timeout)))
  | .anthropic => do
    provider.buildClient timeout
    Action.onSecond (Session.emit (.messageSent prompt))
  | .ollama =>
    Action.onSecond
      (Session.emit (.posted provider.generateUrl (provider.generateRequest prompt) timeout))

/-! ## What comes back -/

def completionContent? (response : Json) : Option Json :=
  match response.field? "choices" with
  | some (.arr (first :: _)) => (first.field? "message").bind (·.field? "content")
  | _ => none

/-- The text of a content block: its text field, or the block itself if it is
no object. -/
def blockText : Json → Json
  | .obj fields => (fields.lookup "text").getD (.str "")
  | block => .str block.display

/-- Joins texts; anything else among them is an error. -/
def joinBlocks : List Json → Except Failure String
  | [] => .ok ""
  | .str text :: rest => do
    let others ← joinBlocks rest
    return text ++ others
  | _ :: _ => .error .wrongKind

def messageContent : Json → Except Failure Json
  | .arr blocks => do
    let text ← joinBlocks (blocks.map blockText)
    return .str text
  | content => .ok content

def envelopePayload (body : String) : Except Failure Json := do
  let source := Service.ollama.label
  match (← Payload.parse source (.str body)).field? "response" with
  | some response => Payload.parse source response
  | none => throw (.invalidOutput .noResponseField)

/-- The payload of a reply, or why there is none. -/
def payload (service : Service) (timeout : Binary64) (reply : ModelReply) : Except Failure Json :=
  match service, reply with
  | _, .timedOut => .error (.transport (.timedOut service timeout))
  | _, .disconnected detail => .error (.transport (.disconnected service detail))
  | .ollama, .raised (.request kind detail) =>
    if kind.isTimeout then .error (.transport (.timedOut service timeout))
    else .error (.transport (.disconnected service detail))
  | _, .raised failure => .error failure
  | .ollama, .http status reason body =>
    if Http.isErrorStatus status then .error (.transport (.refused service status reason))
    else envelopePayload body
  | _, .http status reason _ => .error (.transport (.refused service status reason))
  | .openai, .completion response =>
    match completionContent? response with
    | some content => Payload.parse service.label content
    | none => .error (.invalidOutput (.noContent service))
  | .anthropic, .content content => (messageContent content).bind (Payload.parse service.label)
  | _, .content content | _, .completion content => Payload.parse service.label content

def send (provider : Remote) (prompt : String) (timeout : Binary64) :
    Action (Client × Session) Json := do
  provider.submit prompt timeout
  let reply ← Action.onSecond Session.nextModelReply
  Action.ofExcept (payload provider.service timeout reply)

def request (provider : Remote) : Retry.Request (Client × Session) where
  policy := provider.policy
  label := provider.service.name
  sleep seconds := Action.onSecond (Action.onSecond (Session.sleep seconds))
  warn text := fun (client, session) => (client, session.note .warning text)

def generate (provider : Remote) (prompt : String) : Action (Client × Session) Review := do
  if provider.service.needsCredential && !provider.hasCredential then
    throw (.missingCredential provider.service.name)
  Action.onSecond
    (Session.info s!"Calling {provider.service.name} ({provider.model}) for review generation")
  let payload ← Action.withFresh {} (provider.request.run fun timeout =>
    Action.onSecond (provider.send prompt timeout))
  Action.onSecond (Payload.validate provider.service.name payload)

end Remote

end PatchReview
