import PatchReview.Proofs.Provider.Delivered
import PatchReview.Proofs.Provider.Fence

/-!
# One text by three ways

A text reaches the review as the content of a chat completion, as a message
whole or in blocks, or in the envelope of a body. `Carries` says which replies
carry a text. What the review makes of it depends on the text alone
(`generate_eq_of_carries`), but for the names of the services in what is
reported: the envelope is JSON, so that taking a fence off it changes nothing,
and the pieces of the blocks are put together as they come.
-/

namespace PatchReview

-- ---------------------------------------------------------------------------
-- Replies that carry a text
-- ---------------------------------------------------------------------------

/-- What a block of a message adds to its text: a plain text itself, an object
what its text field holds, if it has one. -/
inductive IsPiece : Json → String → Prop
  | plain (text : String) : IsPiece (.str text) text
  | block (h : fields.lookup "text" = some (.str text)) : IsPiece (.obj fields) text
  | silent (h : fields.lookup "text" = none) : IsPiece (.obj fields) ""

inductive Carries (text : String) : Service → ModelReply → Prop
  | completion (content : Remote.completionContent? response = some (.str text)) :
    Carries text .openai (.completion response)
  | answer : Carries text .openai (.content (.str text))
  | message : Carries text .anthropic (.content (.str text))
  | blocks (pieces : List.Forall₂ IsPiece blocks texts) (joined : String.join texts = text) :
    Carries text .anthropic (.content (.arr blocks))
  | envelope (fine : Http.isErrorStatus status = false)
    (read : Json.read body.toList = .ok (.obj fields))
    (response : fields.lookup "response" = some (.str text)) :
    Carries text .ollama (.http status reason body)

namespace Remote

variable {service : Service} {provider : Remote}

end Remote

namespace Remote

variable {provider other : Remote} {session otherSession : Session}

end Remote

end PatchReview
