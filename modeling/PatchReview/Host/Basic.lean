import PatchReview.Http
import PatchReview.Json.Display
import PatchReview.Json.Member
import PatchReview.Json.Reader
import PatchReview.Session

/-!
# The code host

A client of the code host sends requests about pull requests and reads their
answers, which are JSON of any shape. An answer with an error status and a
request without an answer are failures of the host.
-/

namespace PatchReview

structure Host where
  token : String
  apiUrl : String
  deriving DecidableEq, Repr

namespace Host

def defaultApiUrl : String := "https://api.github.com"

def make (token : String) (apiUrl : String) : Host := ⟨token, Http.withoutTrailingSlashes apiUrl⟩

def timeout : Binary64 := .ofNat 30

def headers (host : Host) : List (String × String) :=
  [("Authorization", s!"Bearer {host.token}"), ("Accept", "application/vnd.github+json"),
    ("X-GitHub-Api-Version", "2022-11-28")]

/-! ## Requests -/

def bodyOf (verb : Verb) (path : String) : HostReply → Except Failure String
  | .raised (.request _ detail) => .error (.host (.disconnected verb path detail))
  | .raised failure => .error failure
  | .http status reason body =>
    if Http.isErrorStatus status then .error (.host (.refused status reason verb path))
    else .ok body

def jsonBody (body : String) : Except Failure Json :=
  (Json.read body.toList).mapError (Failure.ofReadFault .unreadableBody body.toList)

def request (host : Host) (verb : Verb) (path : String) (query : Option (List (String × Json)))
    (body : Option Json) : Action Session Json := do
  Session.emit (.hostAsked ⟨verb, host.apiUrl ++ path, query, body, host.headers, timeout⟩)
  let reply ← Session.nextHostReply
  Action.ofExcept ((bodyOf verb path reply).bind jsonBody)

/-! ## Head and comments -/

def headSha (host : Host) (repo number : Json) : Action Session Json := do
  let answer ← host.request .get s!"/repos/{repo.display}/pulls/{number.display}" none none
  Action.ofExcept (do Json.member "sha" (← Json.member "head" answer))

def postComment (host : Host) (repo number : Json) (body : String) : Action Session Json := do
  let path := s!"/repos/{repo.display}/issues/{number.display}/comments"
  let answer ← host.request .post path none (some (.obj [("body", .str body)]))
  match answer with
  | .obj fields => return (fields.lookup "html_url").getD (.str "")
  | _ => throw .noOperation

end Host

end PatchReview
