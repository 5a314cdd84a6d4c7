import PatchReview.Proofs.CommandLine
import PatchReview.Proofs.Server

/-!
# Calls that get a reply

A call whose first reply is delivered ends with that reply: with a review, with
an output that is no review, or with what reading it broke off with. The first
two are reported, by the command line and the server alike; the last is not,
and ends the program or the request. `call_of_delivered_reply` says when each
of them is the case.
-/

namespace PatchReview

/-- A result that is there, or a failure of the review itself. -/
def IsReviewResult : Except Failure α → Prop
  | .ok _ => True
  | .error failure => failure.isReviewing = true

theorem isReviewResult_iff (h : ReadsUnless c x) : IsReviewResult x ↔ c = false := by
  cases x with
  | ok a =>
    cases h
    exact ⟨fun _ => rfl, fun _ => trivial⟩
  | error failure =>
    rw [IsReviewResult, h.isReviewing_eq]
    cases c <;> simp

namespace Remote

variable {provider : Remote} {reply : ModelReply}

-- ---------------------------------------------------------------------------
-- The reply
-- ---------------------------------------------------------------------------

def judgement (provider : Remote) (reply : ModelReply) : Except Failure Review :=
  (payload provider.service provider.policy.timeout reply).bind provider.verdict

theorem verdict_reading (provider : Remote) (found : Json) :
    ReadsUnless false (provider.verdict found) := by
  unfold verdict
  split
  · exact .ok _
  · exact .invalidOutput _
      (OutputFault.isBroken_invalid provider.service.isBroken_name
        (Text.isBroken_ofList (by decide)) _)

theorem judgement_reading (delivered : reply.isDelivered provider.service = true) :
    ReadsUnless (reply.breaks provider.service) (provider.judgement reply) := by
  have reading := (payload_reading provider.policy.timeout delivered).bind
    (fun found _ => provider.verdict_reading found) fun _ _ => rfl
  rwa [Bool.or_false] at reading

theorem requestCount_of_delivered (delivered : reply.isDelivered provider.service = true)
    (later : List ModelReply) : provider.requestCount (reply :: later) = 1 := by
  have settled : reply.isTransportFailure provider.service = false := by
    rw [← isSome_transport?_payload provider.service provider.policy.timeout,
      (payload_reading provider.policy.timeout delivered).transport?_eq_none]
    rfl
  have lead := leadingFailures_of_settled settled later
  rw [requestCount, lead]
  omega

theorem result_of_delivered (delivered : reply.isDelivered provider.service = true)
    (first : queue.head? = some reply) (prompt : String) :
    (Call.of provider prompt queue).result provider = provider.judgement reply := by
  cases queue with
  | nil => cases first
  | cons _ later =>
    cases first
    have outcome : (Call.of provider prompt (reply :: later)).outcome provider =
        payload provider.service provider.policy.timeout reply := by
      rw [Call.outcome, Call.of, requestCount_of_delivered delivered]
      rfl
    have settled := (payload_reading provider.policy.timeout delivered).transport?_eq_none
    rw [Call.result, Call.answer, outcome, Retry.concluded_of_settled settled]
    rfl

-- ---------------------------------------------------------------------------
-- Those who asked
-- ---------------------------------------------------------------------------

theorem reported_eq {failure : Failure}
    (reading : ReadsUnless c (.error failure : Except Failure α)) :
    CommandLine.reported failure =
      if c then none else some s!"Review failed: {failure.message}" := by
  cases reading with
  | invalidOutput => rfl
  | breaks h => cases failure <;> first | rfl | cases h

theorem runOn_answerOf {failure : Failure}
    (reading : ReadsUnless c (.error failure : Except Failure α)) (session : Session) :
    ((Server.answerOf (.error failure)).runOn session).1 =
      if c then .error failure else .ok (.problem 502 failure.message) := by
  rw [Server.answerOf, reading.isReviewing_eq]
  cases c with
  | true => rfl
  | false =>
    have told := Server.runOn_tell reading.isBroken_message 502 session
    exact congrArg Prod.fst told

/-- What comes of a delivered reply: the call gives the provider's judgement of
it, which is no result of a review exactly if reading the reply breaks off. Then
the failure ends the program or the request that asked; any other failure is
reported. -/
theorem call_of_delivered_reply (ready : provider.IsReady)
    (delivered : reply.isDelivered provider.service = true) :
    (∀ prompt client session, session.modelReplies.head? = some reply →
      ((provider.generate prompt).runOn (client, session)).1 = provider.judgement reply) ∧
    (IsReviewResult (provider.judgement reply) ↔ reply.breaks provider.service = false) ∧
    ∀ failure, provider.judgement reply = .error failure →
      (∀ arguments session (asking : CommandLine.Asking arguments session provider),
        asking.loaded.modelReplies.head? = some reply →
        let outcome := CommandLine.run arguments session
        if reply.breaks provider.service then outcome.result = .error failure
        else outcome.result = .ok 1 ∧ outcome.session.log.getLast? =
          some ⟨.error, s!"Review failed: {failure.message}"⟩) ∧
      ∀ order session, Nonempty (Server.Asking order session provider) →
        session.modelReplies.head? = some reply →
        ((Server.review order).runOn session).1 =
          if reply.breaks provider.service then .error failure
          else .ok (.problem 502 failure.message) := by
  have reading := judgement_reading delivered
  refine ⟨?_, isReviewResult_iff reading, fun failure failed => ⟨?_, ?_⟩⟩
  · intro prompt client session first
    rw [provider.runOn_generate ready]
    exact result_of_delivered delivered first prompt
  · intro arguments session asking first
    have failing :
        (Call.forFiles provider asking.files asking.loaded.modelReplies).result provider =
          .error failure := (result_of_delivered delivered first _).trans failed
    have ends := asking.run_error ready failing
    rw [failed] at reading
    rw [reported_eq reading] at ends
    cases h : reply.breaks provider.service with
    | true =>
      rw [h] at ends
      exact ends
    | false =>
      rw [h] at ends
      exact ends
  · rintro order session ⟨asking⟩ first
    have failing : (Call.forFiles provider order.files session.modelReplies).result provider =
        .error failure := (result_of_delivered delivered first _).trans failed
    obtain ⟨after, ends⟩ := asking.review_error ready failing
    rw [failed] at reading
    rw [ends, runOn_answerOf reading]

end Remote

-- ---------------------------------------------------------------------------
-- A reply that is not reported
-- ---------------------------------------------------------------------------

def strangeReply : ModelReply := .content (.arr [.obj [("text", .null)]])

def pageFile : ChangedFile := ⟨"page.html", .modified, none, some "<img src=a>"⟩

def strangeSession : Session :=
  { Session.ofReplies [strangeReply] with
    environment := [("AI_PROVIDER", "anthropic"), ("AI_API_KEY", "key")]
    disk := ⟨[(["page.html"], Utf8.encode "<img src=a>".toList)], []⟩ }

def strangeSettings : Settings :=
  ⟨"anthropic", some "key", none, none, none, none, none, "INFO", 1⟩

theorem settings_strangeSession :
    Settings.ofEnvironment strangeSession.environment none = .ok strangeSettings := by
  decide +kernel

theorem chosen_keyed (service : Service) :
    Provider.chosen (some service.name) (some "key") none none = .remote (.keyed service) := by
  have kind : Provider.kind? (some service.name) = some (.remote service) := by
    cases service <;> decide +kernel
  rw [Provider.chosen, kind]
  rfl

theorem findings_pageFile : findings Analyzer.builtIn [pageFile] ≠ [] := by decide +kernel

def askingRun : CommandLine.Asking ["--files", "page.html"] strangeSession (.keyed .anthropic) where
  options := { files := ["page.html"] }
  settings := strangeSettings
  least := LogLevel.info.rank
  files := [pageFile]
  pullRequest := none
  loaded := strangeSession
  parsed := by decide +kernel
  noHelp := rfl
  configured := settings_strangeSession
  levelled := by decide +kernel
  numbered := by decide +kernel
  loads := by
    have read := CommandLine.runOn_readText (Path.ofString "page.html").text
      (Utf8.encode "<img src=a>".toList) "<img src=a>".toList strangeSession
      (by decide +kernel) (by decide +kernel) (by decide +kernel) (by decide +kernel)
    have text : String.ofList (unifyLineEnds "<img src=a>".toList) = "<img src=a>" := by
      decide +kernel
    rw [text] at read
    have file : (CommandLine.localFiles ["page.html"]).runOn strangeSession =
        (.ok [pageFile], strangeSession) := by
      rw [CommandLine.localFiles, Action.runOn_bind_ok (CommandLine.runOn_localFile read)]
      rfl
    rw [CommandLine.loadInput, if_pos (by decide), Action.runOn_bind_ok file]
    rfl
  usesModel := rfl
  uses := chosen_keyed .anthropic
  found := findings_pageFile

def askingOrder : Server.ReviewOrder := ⟨[pageFile], none, none⟩

def askingRequest : Server.Asking askingOrder strangeSession (.keyed .anthropic) where
  settings := strangeSettings
  configured := settings_strangeSession
  uses := chosen_keyed .anthropic
  found := findings_pageFile

namespace Remote

theorem judgement_strangeReply :
    (keyed .anthropic).judgement strangeReply = .error .wrongKind := rfl

theorem call_of_strangeReply :
    strangeReply.isDelivered .anthropic = true ∧
      (((keyed .anthropic).generate "prompt").runOn ({}, strangeSession)).1 = .error .wrongKind ∧
      (CommandLine.run ["--files", "page.html"] strangeSession).result = .error .wrongKind ∧
      ((Server.review askingOrder).runOn strangeSession).1 = .error .wrongKind := by
  have delivered : strangeReply.isDelivered (keyed .anthropic).service = true := rfl
  obtain ⟨calls, -, ends⟩ := call_of_delivered_reply (isReady_keyed .anthropic) delivered
  obtain ⟨runs, requests⟩ := ends .wrongKind judgement_strangeReply
  exact ⟨delivered, calls "prompt" {} strangeSession rfl, runs _ _ askingRun rfl,
    requests _ _ ⟨askingRequest⟩ rfl⟩

theorem exists_delivered_not_isReviewResult :
    ¬ ∀ (provider : Remote) (reply : ModelReply) (prompt : String) (client : Client)
      (session : Session), provider.IsReady → reply.isDelivered provider.service = true →
      session.modelReplies.head? = some reply →
      IsReviewResult ((provider.generate prompt).runOn (client, session)).1 := by
  intro claim
  have fine := claim (keyed .anthropic) strangeReply "prompt" {} (.ofReplies [strangeReply])
    (isReady_keyed .anthropic) rfl rfl
  have result : (((keyed .anthropic).generate "prompt").runOn
      ({}, Session.ofReplies [strangeReply])).1 = .error .wrongKind := by
    rw [(keyed .anthropic).runOn_generate (isReady_keyed .anthropic)]
    rfl
  rw [result] at fine
  cases fine

end Remote

end PatchReview
