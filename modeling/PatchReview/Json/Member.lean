import PatchReview.Failure
import PatchReview.Json.Basic

/-!
# Fields that have to be there

Answers and event payloads are JSON of any shape. What a step needs is taken
out of them one field at a time, and the first field that is not there is the
failure.
-/

namespace PatchReview.Json

def member (name : String) : Json → Except Failure Json
  | .obj fields =>
    match fields.lookup name with
    | some value => .ok value
    | none => .error (.missingKey name)
  | _ => .error .wrongKind

end PatchReview.Json
