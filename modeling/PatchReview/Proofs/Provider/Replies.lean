import PatchReview.Proofs.Provider.Fault
import PatchReview.Provider.Remote

/-!
# What becomes of a delivered reply

Reading a delivered reply gives a payload, finds it to be no review, or breaks
off. It breaks off on two conditions only: a text that the reader gives up on,
and a block of content whose text is no text. `payload_reading` decides which
of these it is for every service and every reply.
-/

namespace PatchReview

def Failure.isBreak : Failure → Bool
  | .value _ | .tooDeep _ | .wrongKind => true
  | _ => false

/-- Reading that breaks off exactly on a condition, and otherwise gives a value
or an invalid output that can be told. -/
inductive ReadsUnless : Bool → Except Failure α → Prop
  | ok (a : α) : ReadsUnless false (.ok a)
  | invalidOutput (fault : OutputFault) (told : Text.isBroken fault.message = false) :
    ReadsUnless false (.error (.invalidOutput fault))
  | breaks {f : Failure} (h : f.isBreak = true) : ReadsUnless true (.error f)

namespace ReadsUnless

theorem bind {x : Except Failure α} {next : α → Except Failure β} (hx : ReadsUnless c x)
    (ok : ∀ a, x = .ok a → ReadsUnless d (next a)) (error : ∀ f, x = .error f → d = false) :
    ReadsUnless (c || d) (x >>= next) := by
  cases hx with
  | ok a => exact ok a rfl
  | invalidOutput fault told =>
    rw [error _ rfl]
    exact .invalidOutput fault told
  | breaks h => exact .breaks h

theorem isReviewing_eq (h : ReadsUnless c (.error f : Except Failure α)) : f.isReviewing = !c := by
  cases h with
  | invalidOutput => rfl
  | breaks h => cases f <;> first | rfl | cases h

theorem isBroken_message (h : ReadsUnless false (.error f : Except Failure α)) :
    Text.isBroken f.message = false := by
  cases h with
  | invalidOutput fault told => exact told

end ReadsUnless

-- ---------------------------------------------------------------------------
-- Texts
-- ---------------------------------------------------------------------------

namespace Payload

/-- The texts that the reader gives up on: with too many digits in a whole
number, or too many arrays and objects inside each other. -/
def givesUp (text : List Char) : Bool :=
  match Json.read (withoutFence text) with
  | .error (.tooManyDigits _) | .error (.tooNested _) => true
  | _ => false

def givesUpOn : Json → Bool
  | .str text => givesUp text.toList
  | _ => false

theorem parseText_reading (named : Text.isBroken source = false) (text : List Char) :
    ReadsUnless (givesUp text) (parseText source text) := by
  simp only [parseText, givesUp]
  cases Json.read (withoutFence text) with
  | ok value => exact .ok value
  | error fault =>
    have told := fault.isBroken_message (withoutFence text)
    cases fault with
    | grammar => exact .invalidOutput _ (OutputFault.isBroken_notJson named told)
    | tooManyDigits => exact .breaks rfl
    | tooNested => exact .breaks rfl

theorem parse_reading (named : Text.isBroken source = false) (content : Json) :
    ReadsUnless (givesUpOn content) (parse source content) := by
  cases content with
  | str text => exact parseText_reading named text.toList
  | _ => exact .invalidOutput _ (OutputFault.isBroken_noText named)

theorem parse_eq_ok (source text : String) :
    parse source (.str text) = .ok value ↔ Json.read (withoutFence text.toList) = .ok value := by
  simp only [parse, parseText]
  cases Json.read (withoutFence text.toList) with
  | ok found =>
    constructor
    · rintro ⟨⟩
      rfl
    · rintro ⟨⟩
      rfl
  | error fault =>
    constructor
    · rintro ⟨⟩
    · rintro ⟨⟩

theorem read_of_parse_eq_error (source text : String) (h : parse source (.str text) = .error f) :
    ∃ fault, Json.read (withoutFence text.toList) = .error fault := by
  cases read : Json.read (withoutFence text.toList) with
  | ok value =>
    rw [(parse_eq_ok source text).mpr read] at h
    cases h
  | error fault => exact ⟨fault, rfl⟩

end Payload

-- ---------------------------------------------------------------------------
-- Replies
-- ---------------------------------------------------------------------------

namespace Remote

open Payload (givesUpOn parse_reading)

/-- Whether a block of content has a text field that is no text. -/
def isStrangeBlock : Json → Bool
  | .obj fields =>
    match fields.lookup "text" with
    | none | some (.str _) => false
    | some _ => true
  | _ => false

def blockPiece (block : Json) : String :=
  match blockText block with
  | .str text => text
  | _ => ""

theorem blockText_eq (h : isStrangeBlock block = false) :
    blockText block = .str (blockPiece block) := by
  unfold blockPiece
  cases block with
  | obj fields =>
    simp only [isStrangeBlock, blockText] at h ⊢
    cases found : fields.lookup "text" with
    | none => rfl
    | some text => cases text <;> simp_all
  | _ => rfl

theorem joinBlocks_strange (h : isStrangeBlock block = true) (rest : List Json) :
    joinBlocks (blockText block :: rest) = .error .wrongKind := by
  cases block with
  | obj fields =>
    simp only [isStrangeBlock, blockText] at h ⊢
    cases found : fields.lookup "text" with
    | none => simp [found] at h
    | some text => cases text <;> simp_all [joinBlocks]
  | _ => cases h

theorem joinBlocks_eq (blocks : List Json) :
    joinBlocks (blocks.map blockText) =
      if blocks.any isStrangeBlock then .error .wrongKind
      else .ok (String.join (blocks.map blockPiece)) := by
  induction blocks with
  | nil => rfl
  | cons block rest ih =>
    cases h : isStrangeBlock block with
    | true => simp [joinBlocks_strange h, h]
    | false =>
      simp only [List.map_cons, blockText_eq h, joinBlocks, ih, List.any_cons, h, Bool.false_or]
      split
      · rfl
      · rw [String.join_cons]
        rfl

def hasStrangeBlock : Json → Bool
  | .arr blocks => blocks.any isStrangeBlock
  | _ => false

def joinedContent : Json → Json
  | .arr blocks => .str (String.join (blocks.map blockPiece))
  | content => content

theorem messageContent_eq (content : Json) :
    messageContent content =
      if hasStrangeBlock content then .error .wrongKind else .ok (joinedContent content) := by
  cases content with
  | arr blocks =>
    rw [messageContent, joinBlocks_eq,
      show hasStrangeBlock (.arr blocks) = blocks.any isStrangeBlock from rfl]
    split <;> rfl
  | _ => rfl

theorem message_reading (named : Text.isBroken source = false) (content : Json) :
    ReadsUnless (hasStrangeBlock content || givesUpOn (joinedContent content))
      ((messageContent content).bind (Payload.parse source)) := by
  rw [messageContent_eq]
  cases hasStrangeBlock content with
  | true => exact .breaks rfl
  | false => exact parse_reading named (joinedContent content)

/-- Whether reading an envelope breaks off: at the envelope itself, or at the
response in it. -/
def envelopeBreaks (body : String) : Bool :=
  Payload.givesUp body.toList ||
    match Json.read (Payload.withoutFence body.toList) with
    | .ok envelope => (envelope.field? "response").any givesUpOn
    | .error _ => false

theorem envelope_reading (body : String) :
    ReadsUnless (envelopeBreaks body) (envelopePayload body) := by
  have named := Service.ollama.isBroken_label
  have whole := parse_reading named (.str body)
  refine whole.bind (fun envelope h => ?_) fun f h => ?_
  · rw [(Payload.parse_eq_ok _ _).mp h]
    dsimp only
    cases envelope.field? "response" with
    | none => exact .invalidOutput _ (Text.isBroken_ofList (by decide))
    | some response => exact parse_reading named response
  · obtain ⟨fault, h⟩ := Payload.read_of_parse_eq_error _ _ h
    rw [h]

end Remote

/-- The replies that the transport delivers: a completion, the content of a
message, or a body under a status that is no error. -/
def ModelReply.isDelivered (service : Service) : ModelReply → Bool
  | .completion _ | .content _ => true
  | .http status _ _ => service == .ollama && !Http.isErrorStatus status
  | _ => false

def ModelReply.breaks (service : Service) : ModelReply → Bool
  | .completion response =>
    match service with
    | .openai => (Remote.completionContent? response).any Payload.givesUpOn
    | _ => Payload.givesUpOn response
  | .content found =>
    match service with
    | .anthropic => Remote.hasStrangeBlock found || Payload.givesUpOn (Remote.joinedContent found)
    | _ => Payload.givesUpOn found
  | .http _ _ body => Remote.envelopeBreaks body
  | _ => false

theorem payload_reading {service : Service} {reply : ModelReply} (timeout : Binary64)
    (delivered : reply.isDelivered service = true) :
    ReadsUnless (reply.breaks service) (Remote.payload service timeout reply) := by
  have named := service.isBroken_label
  cases reply with
  | completion response =>
    cases service with
    | openai =>
      simp only [Remote.payload, ModelReply.breaks]
      cases Remote.completionContent? response with
      | none => exact .invalidOutput _ (OutputFault.isBroken_noContent _)
      | some content => exact Payload.parse_reading named content
    | ollama | anthropic => exact Payload.parse_reading named response
  | content content =>
    cases service with
    | anthropic => exact Remote.message_reading named content
    | openai | ollama => exact Payload.parse_reading named content
  | http status reason body =>
    simp only [ModelReply.isDelivered, Bool.and_eq_true, beq_iff_eq, Bool.not_eq_true'] at delivered
    obtain ⟨rfl, fine⟩ := delivered
    simp only [Remote.payload, fine]
    exact Remote.envelope_reading body
  | timedOut | disconnected | raised => cases delivered

end PatchReview
