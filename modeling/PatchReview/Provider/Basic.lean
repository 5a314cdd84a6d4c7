import PatchReview.Provider.Remote

/-!
# Providers

A provider turns a prompt into a review. The mock provider writes the same
review for every prompt; remote ones ask a service; others are the caller's
own. Providers are chosen by name, in any case and with white space around it,
and an unknown name means the mock provider.
-/

namespace PatchReview

/-- A provider of the caller's own. It may have no notion of a model. -/
structure CustomProvider where
  name : String
  model : Option String
  answer : String → Except Failure Review

inductive Provider where
  | mock (delay : Binary64)
  | remote (settings : Remote)
  | custom (settings : CustomProvider)

namespace Provider

def mockName : String := "mock"

def name : Provider → String
  | mock _ => mockName
  | remote r => r.service.name
  | custom c => c.name

def model : Provider → Option String
  | mock _ => none
  | remote r => some r.model
  | custom c => c.model

def mockComment : String := "\n".intercalate [
    "## 🤖 AI PR Review (Mock Mode)",
    "",
    "I've analyzed your pull request and found some areas for improvement:",
    "",
    "### 🔍 Summary",
    "This is a mock review generated for testing purposes. In production, this would contain " ++
      "AI-generated insights about your code changes.",
    "",
    "### 💡 Suggestions",
    "- Consider reviewing the accessibility of your UI components",
    "- Check for any performance optimizations",
    "- Ensure security best practices are followed",
    "",
    "*This review was generated using the mock AI provider. Configure a real AI provider to " ++
      "get actual insights.*"]

def mockReview : Review where
  comment := mockComment
  confidence := .ofDecimal false 8 (-1)
  categories := Category.all

def generateMock (delay : Binary64) : Action Session Review := do
  Session.info "Using mock provider - generating synthetic review"
  if !delay.isZero then Session.sleep delay
  return mockReview

/-- Writes a review for a prompt. The client is kept between calls. -/
def generate (provider : Provider) (prompt : String) : Action (Client × Session) Review :=
  match provider with
  | mock delay => Action.onSecond (generateMock delay)
  | remote r => r.generate prompt
  | custom c => do
    Action.onSecond (Session.emit (.consulted prompt))
    Action.ofExcept (c.answer prompt)

def generateOnce (provider : Provider) (prompt : String) : Action Session Review :=
  Action.withFresh {} (provider.generate prompt)

def lowerName (name : String) : String := String.ofList (name.toList.map Text.lowerAscii)

def lookupName (name : String) : String :=
  String.ofList ((Text.strip name.toList).map Text.lowerAscii)

inductive Kind where
  | mock
  | remote (service : Service)
  deriving DecidableEq, Repr

def kinds : List (String × Kind) :=
  [(mockName, .mock), (Service.openai.name, .remote .openai), (Service.ollama.name, .remote .ollama),
    (Service.anthropic.name, .remote .anthropic)]

def kind? (name : Option String) : Option Kind := kinds.lookup (lookupName (name.getD ""))

def ofKind (apiKey baseUrl model : Option String) : Kind → Provider
  | .mock => .mock (.zero false)
  | .remote service => .remote (.make service apiKey baseUrl model none)

/-- The provider with a name; an unknown name is logged. -/
def choose (name apiKey baseUrl model : Option String) : Action Session Provider :=
  match kind? name with
  | some kind => return ofKind apiKey baseUrl model kind
  | none => do
    let shown := name.getD "None"
    Session.warn s!"Unknown provider '{shown}', falling back to {mockName}"
    return ofKind apiKey baseUrl model .mock

end Provider

end PatchReview
