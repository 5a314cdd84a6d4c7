import PatchReview.ChangedFile
import PatchReview.Report

/-!
# The description of the server

The server describes itself: its endpoints, and the shapes of what they take
and give. A shape says of a value what kind it is; models are described once
and named elsewhere.
-/

namespace PatchReview.Server

inductive Shape where
  | null
  | text
  | whole
  | number
  /-- A number from zero to one. -/
  | share
  | truth
  | choice (options : List String)
  | list (item : Shape)
  | object
  /-- An object with any fields. -/
  | openObject
  | model (name : String)
  | anyOf (shapes : List Shape)
  | anything
  deriving Repr

namespace Shape

def orNull (shape : Shape) : Shape := anyOf [shape, null]

def modelPath (name : String) : String := s!"#/components/schemas/{name}"

def kind (name : String) : String × Json := ("type", .str name)

mutual
def fields : Shape → List (String × Json)
  | null => [kind "null"]
  | text => [kind "string"]
  | whole => [kind "integer"]
  | number => [kind "number"]
  | share => [kind "number", ("maximum", .num (.ofNat 1)), ("minimum", .num (.ofNat 0))]
  | truth => [kind "boolean"]
  | choice options => [kind "string", ("enum", .arr (options.map .str))]
  | list item => [("items", .obj item.fields), kind "array"]
  | object => [kind "object"]
  | openObject => [("additionalProperties", .bool true), kind "object"]
  | model name => [("$ref", .str (modelPath name))]
  | anyOf shapes => [("anyOf", .arr (objects shapes))]
  | anything => []
def objects : List Shape → List Json
  | [] => []
  | shape :: rest => .obj shape.fields :: objects rest
end

def isModel : Shape → Bool
  | model _ => true
  | anyOf (model _ :: _) => true
  | _ => false

end Shape

structure Entry where
  name : String
  shape : Shape
  description : Option String
  isRequired : Bool
  /-- Its title, if that is not made from its name. -/
  title : Option String

namespace Entry

def required (name : String) (shape : Shape) (description : Option String) : Entry :=
  ⟨name, shape, description, true, none⟩

def optional (name : String) (shape : Shape) (description : Option String) : Entry :=
  ⟨name, shape, description, false, none⟩

def entitled (title : String) (entry : Entry) : Entry := { entry with title := some title }

def titleOf (name : String) : String :=
  let capitals (c : Char) (before : Char) : Char :=
    if c = '_' then ' ' else if before = '_' then c.toUpper else c
  String.ofList (List.zipWith capitals name.toList ('_' :: name.toList))

/-- The field's own title; a field that is one model has the model's. -/
def titleField (entry : Entry) : List (String × Json) :=
  if entry.shape.isModel then [] else [("title", .str (entry.title.getD (titleOf entry.name)))]

def describe (description : Option String) : List (String × Json) :=
  description.toList.map fun text => ("description", .str text)

def toJson (entry : Entry) : Json :=
  .obj (entry.shape.fields ++ describe entry.description ++ entry.titleField)

end Entry

structure Model where
  name : String
  description : Option String
  entries : List Entry

def Model.toJson (model : Model) : Json :=
  let required := (model.entries.filter (·.isRequired)).map (Json.str ·.name)
  .obj ([("properties", .obj (model.entries.map fun entry => (entry.name, entry.toJson))),
    Shape.kind "object", ("title", .str model.name)] ++ Entry.describe model.description ++
    if required.isEmpty then [] else [("required", .arr required)])

namespace Interface

open Shape Entry

def files : Entry := required "files" (list (model "ChangedFile")) none

def analyzeRequest : Model := ⟨"AnalyzeRequest", none, [files]⟩

def analyzeResponse : Model :=
  ⟨"AnalyzeResponse", none,
    [required "issues" (list (model "Issue")) none, required "total_issues" whole none]⟩

def reviewRequest : Model :=
  ⟨"ReviewRequest", none,
    [files, optional "provider" text.orNull none, optional "model" text.orNull none]⟩

def healthResponse : Model :=
  ⟨"HealthResponse", none,
    [required "status" text none, required "version" text none, required "provider" text none]⟩

def changedFile : Model :=
  ⟨"ChangedFile", some "A file touched by the pull request.",
    [required "filename" text none,
      required "status" (choice (FileStatus.all.map (·.name))) none,
      optional "patch" text.orNull (some "Unified diff, informational only"),
      optional "contents" text.orNull (some "Full file text; absent for removed files")]⟩

def issue : Model :=
  ⟨"Issue", some "Single finding produced by an analyzer.",
    [required "type" (choice (Category.all.map (·.name))) (some "Issue category"),
      required "severity" (choice (Severity.all.map (·.name))) (some "Issue severity"),
      required "file" text (some "File the issue was found in"),
      optional "line" whole.orNull (some "Line number if applicable"),
      required "message" text (some "Human-readable explanation"),
      optional "suggestion" text.orNull (some "Suggested remediation")]⟩

def review : Model :=
  ⟨Review.modelName, some "Structured review returned by an LLM provider.",
    [required "comment" text (some "Full markdown comment to post on the PR"),
      required "confidence" share (some "Confidence score 0-1"),
      required "categories" (list text) (some "Categories of issues found")]⟩

def summary : Model :=
  ⟨"ReviewSummary", some "Summary of review results.",
    [required "files_analyzed" whole none, required "total_issues" whole none,
      required "high_severity" whole none, required "medium_severity" whole none,
      required "low_severity" whole none, required "review_time_seconds" number none,
      required "llm_used" truth none, optional "provider" text.orNull none,
      optional "model_name" text.orNull none]⟩

def report : Model :=
  ⟨"ReviewOutput", some "Complete review output.",
    [required "issues" (list (model "Issue")) none, required "summary" (model "ReviewSummary") none,
      optional "review" (model Review.modelName).orNull none, optional "metadata" openObject none]⟩

def violation : Model :=
  ⟨"ValidationError", none,
    [(required "loc" (list (anyOf [text, whole])) none).entitled "Location",
      (required "msg" text none).entitled "Message",
      (required "type" text none).entitled "Error Type",
      optional "input" anything none,
      (optional "ctx" object none).entitled "Context"]⟩

def violations : Model :=
  ⟨"HTTPValidationError", none, [optional "detail" (list (model "ValidationError")) none]⟩

def models : List Model :=
  [analyzeRequest, analyzeResponse, changedFile, violations, healthResponse, issue, report,
    reviewRequest, review, summary, violation]

structure Operation where
  path : String
  method : String
  id : String
  title : String
  takes : Option Model
  gives : Model

def operations : List Operation :=
  [⟨"/health", "get", "health_health_get", "Health", none, healthResponse⟩,
    ⟨"/analyze", "post", "analyze_analyze_post", "Analyze", some analyzeRequest, analyzeResponse⟩,
    ⟨"/review", "post", "review_review_post", "Review", some reviewRequest, report⟩]

def content (model : Model) : String × Json :=
  ("content", .obj [("application/json",
    .obj [("schema", .obj (Shape.model model.name).fields)])])

def response (status description : String) (model : Model) : String × Json :=
  (status, .obj [("description", .str description), content model])

/-- An operation that takes a body refuses one in the wrong shape. -/
def Operation.toJson (operation : Operation) : Json :=
  let refusals :=
    if operation.takes.isSome then [response "422" "Validation Error" violations] else []
  let bodies := operation.takes.toList.map fun model =>
    ("requestBody", Json.obj [content model, ("required", .bool true)])
  .obj ([("summary", .str operation.title), ("operationId", .str operation.id)] ++ bodies ++
    [("responses", .obj (response "200" "Successful Response" operation.gives :: refusals))])

def toJson (version : String) : Json :=
  .obj [("openapi", .str "3.1.0"),
    ("info", .obj [("title", .str "AI PR Reviewer"),
      ("description", .str "Accessibility, performance and security review of changed files"),
      ("version", .str version)]),
    ("paths", .obj (operations.map fun operation =>
      (operation.path, .obj [(operation.method, operation.toJson)]))),
    ("components", .obj [("schemas", .obj (models.map fun model => (model.name, model.toJson)))])]

end Interface

end PatchReview.Server
