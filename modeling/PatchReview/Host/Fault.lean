import PatchReview.Http

/-!
# Failed requests to the code host
-/

namespace PatchReview

inductive HostFault where
  | disconnected (verb : Verb) (path : String) (detail : String)
  | refused (status : Int) (reason : Option String) (verb : Verb) (path : String)
  | stated (text : String) (status : Option Int)
  deriving DecidableEq, Repr

namespace HostFault

def status : HostFault → Option Int
  | disconnected .. => none
  | refused status .. => some status
  | stated _ status => status

def message : HostFault → String
  | disconnected verb path detail => s!"GitHub request failed: {verb.name} {path}: {detail}"
  | refused status reason verb path =>
    s!"GitHub API error: {status} {Http.shownReason reason} ({verb.name} {path})"
  | stated text _ => text

end HostFault

end PatchReview
