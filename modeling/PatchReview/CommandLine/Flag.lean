import PatchReview.Text.Quoted

/-!
# Command-line flags

The flags, what they take, and the mistakes one can make with them.
-/

namespace PatchReview.CommandLine

inductive Flag where
  | help
  | files
  | repo
  | eventPath
  | pr
  | provider
  | apiKey
  | baseUrl
  | model
  | noLlm
  | post
  | output
  | workers
  deriving DecidableEq, Repr

namespace Flag

def all : List Flag :=
  [help, files, repo, eventPath, pr, provider, apiKey, baseUrl, model, noLlm, post, output, workers]

def spelling : Flag → String
  | help => "--help"
  | files => "--files"
  | repo => "--repo"
  | eventPath => "--event-path"
  | pr => "--pr"
  | provider => "--provider"
  | apiKey => "--api-key"
  | baseUrl => "--base-url"
  | model => "--model"
  | noLlm => "--no-llm"
  | post => "--post"
  | output => "--output"
  | workers => "--workers"

def name : Flag → String
  | help => "-h/--help"
  | flag => flag.spelling

inductive Arity where
  | none
  | one
  | some
  deriving DecidableEq, Repr

def arity : Flag → Arity
  | help | noLlm | post => .none
  | files => .some
  | _ => .one

/-- At most one of the sources of files may be given. -/
def sources : List Flag := [files, repo, eventPath]

def purpose : Flag → String
  | help => "Show this help"
  | files => "Local files to review"
  | repo => "Repository (owner/name); requires --pr"
  | eventPath => "Event payload (default: $GITHUB_EVENT_PATH)"
  | pr => "Pull request number (with --repo)"
  | provider => "Provider: mock, openai, ollama, anthropic (default: $AI_PROVIDER or mock)"
  | apiKey => "Key of the provider (default: $AI_API_KEY)"
  | baseUrl => "Address of the provider (default: $AI_BASE_URL)"
  | model => "Model name (default: the model of the provider)"
  | noLlm => "Report the findings of the rules only"
  | post => "Post the review as a comment"
  | output => "Write the report as JSON to this path"
  | workers => "Analyzer threads (default: $REVIEW_MAX_WORKERS or 1)"

end Flag

inductive UsageError where
  | ambiguous (word : String) (candidates : List Flag)
  | expectedOne (flag : Flag)
  | expectedSome (flag : Flag)
  | ignoredValue (flag : Flag) (value : String)
  | notInteger (flag : Flag) (value : String)
  | conflict (flag other : Flag)
  | unrecognized (words : List String)
  | repoWithoutNumber
  | noSource
  deriving DecidableEq, Repr

def UsageError.message : UsageError → String
  | ambiguous word candidates =>
    let names := ", ".intercalate (candidates.map (·.spelling))
    s!"ambiguous option: {word} could match {names}"
  | expectedOne flag => s!"argument {flag.name}: expected one argument"
  | expectedSome flag => s!"argument {flag.name}: expected at least one argument"
  | ignoredValue flag value =>
    s!"argument {flag.name}: ignored explicit argument {Text.quote value}"
  | notInteger flag value => s!"argument {flag.name}: invalid int value: {Text.quote value}"
  | conflict flag other => s!"argument {flag.name}: not allowed with argument {other.name}"
  | unrecognized words => "unrecognized arguments: " ++ " ".intercalate words
  | repoWithoutNumber => "--repo requires --pr"
  | noSource => "one of --files, --repo or --event-path (or $GITHUB_EVENT_PATH) is required"

end PatchReview.CommandLine
