/-!
# HTTP

What requests of all kinds have in common: verbs, which statuses are errors,
and how addresses are put together.
-/

namespace PatchReview

inductive Verb where
  | get
  | post
  deriving DecidableEq, Repr

def Verb.name : Verb → String
  | .get => "GET"
  | .post => "POST"

namespace Http

/-- Client and server errors; redirections and the like are not among them. -/
def isErrorStatus (status : Int) : Bool := 400 ≤ status && status < 600

theorem isErrorStatus_eq (status : Int) :
    isErrorStatus status = decide (400 ≤ status ∧ status < 600) := by
  simp [isErrorStatus]

def withoutTrailingSlashes (url : String) : String :=
  String.ofList ((url.toList.reverse.dropWhile (· == '/')).reverse)

def shownReason (reason : Option String) : String := reason.getD "None"

end Http

end PatchReview
