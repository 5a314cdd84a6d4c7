/-!
# Services

The services that write reviews over the network, and what differs between
them before any request is made.
-/

namespace PatchReview

inductive Service where
  | openai
  | ollama
  | anthropic
  deriving DecidableEq, Repr

namespace Service

def name : Service → String
  | openai => "openai"
  | ollama => "ollama"
  | anthropic => "anthropic"

def label : Service → String
  | openai => "OpenAI"
  | ollama => "Ollama"
  | anthropic => "Anthropic"

def needsCredential : Service → Bool
  | openai | anthropic => true
  | ollama => false

def defaultModel : Service → String
  | openai => "gpt-4o-mini"
  | ollama => "llama3.1"
  | anthropic => "claude-3-5-sonnet-latest"

end Service

end PatchReview
