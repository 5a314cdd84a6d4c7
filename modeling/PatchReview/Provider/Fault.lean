import PatchReview.Http
import PatchReview.Number.Decimal
import PatchReview.Provider.Service
import PatchReview.Schema.Violation

/-!
# What goes wrong with a service

A request may get no usable answer, which another attempt may mend, or an
answer that is no review, which is final.
-/

namespace PatchReview

/-- A request that got no usable answer and may be sent again. -/
inductive TransportFailure where
  | timedOut (service : Service) (seconds : Binary64)
  | refused (service : Service) (status : Int) (reason : Option String)
  | disconnected (service : Service) (detail : String)
  /-- As worded by whoever raised it. -/
  | stated (isTimeout : Bool) (text : String) (status : Option Int) (reason : Option String)
  deriving DecidableEq, Repr

namespace TransportFailure

def isTimeout : TransportFailure → Bool
  | timedOut .. => true
  | stated isTimeout .. => isTimeout
  | _ => false

def status : TransportFailure → Option Int
  | refused _ status _ => some status
  | stated _ _ status _ => status
  | _ => none

def reason : TransportFailure → Option String
  | refused _ _ reason => reason
  | stated _ _ _ reason => reason
  | _ => none

def message : TransportFailure → String
  | timedOut .ollama seconds => s!"Ollama timeout after {seconds.text}s"
  | timedOut service seconds => s!"{service.label} API timeout after {seconds.text}s"
  | refused service status reason => s!"{service.label} API error: {status} {Http.shownReason reason}"
  | disconnected .ollama detail => s!"Ollama request failed: {detail}"
  | disconnected service detail => s!"{service.label} connection error: {detail}"
  | stated _ text _ _ => text

end TransportFailure

inductive OutputFault where
  | noText (source : String)
  | notJson (source : String) (detail : String)
  | noContent (service : Service)
  | noResponseField
  | invalid (source : String) (model : String) (violations : List Schema.Violation)
  | stated (text : String)
  deriving DecidableEq, Repr

namespace OutputFault

def message : OutputFault → String
  | noText source => s!"{source} returned no text content"
  | notJson source detail => s!"{source} output is not valid JSON: {detail}"
  | noContent service => s!"{service.label} response has no message content"
  | noResponseField => "Ollama response has no 'response' field"
  | invalid source model violations =>
    s!"Invalid response format from {source}: {Schema.headline model violations}"
  | stated text => text

end OutputFault

end PatchReview
