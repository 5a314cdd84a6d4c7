import PatchReview.Number.Numeral
import PatchReview.Provider.Basic

/-!
# Settings

Settings come from environment variables; an empty variable counts as absent.
A general key takes precedence over the key variable of the chosen provider.
-/

namespace PatchReview

structure Settings where
  provider : String
  apiKey : Option String
  baseUrl : Option String
  model : Option String
  hostToken : Option String
  hostRepository : Option String
  eventPath : Option String
  logLevel : String
  maxWorkers : Int
  deriving DecidableEq, Repr

def nonEmpty (text : Option String) : Option String := text.filter (!·.isEmpty)

namespace Environment

def value? (environment : Environment) (name : String) : Option String :=
  nonEmpty (environment.lookup name)

end Environment

namespace Settings

def keyVariables : List (String × String) :=
  [(Service.openai.name, "OPENAI_API_KEY"), (Service.anthropic.name, "ANTHROPIC_API_KEY")]

def variableNames : List String :=
  ["AI_PROVIDER", "AI_API_KEY", "AI_BASE_URL", "AI_MODEL", "REVIEW_MAX_WORKERS", "LOG_LEVEL",
    "GITHUB_TOKEN", "GITHUB_REPOSITORY", "GITHUB_EVENT_PATH"] ++ keyVariables.map (·.2)

def keyVariable? (provider : String) : Option String :=
  keyVariables.lookup (Provider.lowerName provider)

def apiKeyFor (environment : Environment) (provider : String) : Option String :=
  match environment.value? "AI_API_KEY" with
  | some key => some key
  | none => (keyVariable? provider).bind environment.value?

/-- Settings from an environment; a given provider name overrides it. -/
def ofEnvironment (environment : Environment) (provider : Option String) :
    Except Failure Settings :=
  let provider := ((nonEmpty provider).or (environment.value? "AI_PROVIDER")).getD Provider.mockName
  let workers := (environment.value? "REVIEW_MAX_WORKERS").getD "1"
  match Numeral.setting? workers with
  | none => .error (.value s!"REVIEW_MAX_WORKERS must be an integer, got {Text.quote workers}")
  | some workers => .ok {
      provider := provider
      apiKey := apiKeyFor environment provider
      baseUrl := environment.value? "AI_BASE_URL"
      model := environment.value? "AI_MODEL"
      hostToken := environment.value? "GITHUB_TOKEN"
      hostRepository := environment.value? "GITHUB_REPOSITORY"
      eventPath := environment.value? "GITHUB_EVENT_PATH"
      logLevel := Text.upper ((environment.value? "LOG_LEVEL").getD "INFO")
      maxWorkers := max 1 workers }

end Settings

end PatchReview
