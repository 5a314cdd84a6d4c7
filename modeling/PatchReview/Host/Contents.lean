import PatchReview.Encoding.Percent
import PatchReview.Host.Basic

/-!
# Contents of files

The code host sends a file's contents in base64. Contents that cannot be
fetched or read are logged and left out; only failures of another kind go on.
-/

namespace PatchReview.Host

def contentsPath (repo : Json) (path : String) : Except Failure String :=
  match Utf8.unencodable? path.toList with
  | some fault => .error (.unencodable fault)
  | none => .ok s!"/repos/{repo.display}/contents/{String.ofList (Percent.encode path.toList)}"

def decodeText (octets : List UInt8) : Except Failure String :=
  match Utf8.decode octets with
  | .ok text => .ok (String.ofList text)
  | .error fault => .error (.undecodable fault)

def contentsOf (answer : Json) : Except Failure (Option String) :=
  match answer.field? "content" with
  | none => .ok none
  | some content =>
    if !content.isPresent then .ok none
    else
      match content with
      | .str text =>
        match Base64.decode text.toList with
        | .ok octets => (decodeText octets).map some
        | .error fault => .error (.base64 fault)
      | _ => .error .wrongKind

def fileContents (host : Host) (repo : Json) (path : String) (ref : Json) :
    Action Session (Option String) := do
  let place ← Action.ofExcept (contentsPath repo path)
  let answer ← host.request .get place (some [("ref", ref)]) none
  Action.ofExcept (contentsOf answer)

def isTolerated : Failure → Bool
  | .host _ => true
  | failure => failure.isValue

/-- The contents of a file, or none and a warning. -/
def contentsOrWarning (host : Host) (repo : Json) (path : String) (ref : Json) :
    Action Session (Option String) := do
  match ← Action.outcome (host.fileContents repo path ref) with
  | .ok contents => return contents
  | .error failure =>
    if isTolerated failure then
      Session.warn s!"Failed to get contents for {path}: {failure.message}"
      return none
    else throw failure

end PatchReview.Host
