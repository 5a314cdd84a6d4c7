import PatchReview.Json.Reader
import PatchReview.Report
import PatchReview.Session

/-!
# Reading a model's answer

Models wrap JSON in a code fence now and then. One fence around the whole text
is taken off, with its tag and the white space inside; what is left has to be
JSON that satisfies the schema of a review.
-/

namespace PatchReview.Payload

def fence : List Char := ['`', '`', '`']

def withoutTag (text : List Char) : List Char :=
  if text.length < 4 then text
  else if (text.take 4).map Text.fold = ['j', 's', 'o', 'n'] then text.drop 4
  else text

/-- The text inside one outer fence, or the text itself; stripped in either
case. -/
def withoutFence (text : List Char) : List Char :=
  let stripped := Text.strip text
  if 6 ≤ stripped.length && fence.isPrefixOf stripped && fence.isSuffixOf stripped then
    Text.strip (withoutTag ((stripped.drop 3).take (stripped.length - 6)))
  else stripped

def parseText (source : String) (text : List Char) : Except Failure Json :=
  let text := withoutFence text
  (Json.read text).mapError (Failure.ofReadFault (fun detail => .invalidOutput (.notJson source detail)) text)

def parse (source : String) : Json → Except Failure Json
  | .str text => parseText source text.toList
  | _ => .error (.invalidOutput (.noText source))

def validate (source : String) (payload : Json) : Action Session Review :=
  match Review.check payload with
  | .valid review => return review
  | .invalid violations => do
    let headline := Schema.headline Review.modelName violations
    Session.logError s!"Failed to validate {source} response: {headline}"
    throw (.invalidOutput (.invalid source Review.modelName violations))

end PatchReview.Payload
