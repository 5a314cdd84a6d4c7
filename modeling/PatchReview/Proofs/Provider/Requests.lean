import PatchReview.Proofs.Provider.Replies
import PatchReview.Proofs.Retry.Course
import PatchReview.Proofs.Session

/-!
# The requests of a call

A provider that writes a review sends one request after the other until the
transport delivers a reply or breaks off otherwise. `course` gives the state
before and after each request: the client is there from the first one on, the
replies are taken in turn, and requests, pauses and warnings pile up.
`requestCount` is how many requests that makes.
-/

namespace PatchReview

open PatchReview.Action (runOn_bind)
open Retry (transport? concluded)

/-- Whether a reply of a service is a failure of the transport. -/
def ModelReply.isTransportFailure (service : Service) : ModelReply → Bool
  | .timedOut | .disconnected _ | .raised (.transport _) => true
  | .raised (.request ..) => service == .ollama
  | .http status _ _ => service != .ollama || decide (400 ≤ status ∧ status < 600)
  | .raised _ | .completion _ | .content _ => false

theorem ReadsUnless.transport?_eq_none {x : Except Failure α} (h : ReadsUnless c x) :
    transport? x = none := by
  cases h with
  | ok | invalidOutput => rfl
  | @breaks f h => cases f <;> first | rfl | cases h

/-- Delivered replies and those that were never sent are no failures of the
transport, all others are. -/
theorem isSome_transport?_payload (service : Service) (timeout : Binary64) (reply : ModelReply) :
    (transport? (Remote.payload service timeout reply)).isSome =
      reply.isTransportFailure service := by
  cases reply with
  | timedOut | disconnected => cases service <;> rfl
  | raised f =>
    cases f with
    | request kind detail => cases service <;> cases kind <;> rfl
    | _ => cases service <;> rfl
  | completion response => rw [(payload_reading timeout rfl).transport?_eq_none]; rfl
  | content content => rw [(payload_reading timeout rfl).transport?_eq_none]; rfl
  | http status reason body =>
    cases service with
    | openai | anthropic => rfl
    | ollama =>
      rw [ModelReply.isTransportFailure, ← Http.isErrorStatus_eq]
      cases refused : Http.isErrorStatus status with
      | true => simp [Remote.payload, refused, transport?]
      | false =>
        have delivered : (ModelReply.http status reason body).isDelivered .ollama = true := by
          simp [ModelReply.isDelivered, refused]
        rw [(payload_reading timeout delivered).transport?_eq_none]
        rfl

namespace Remote

def outcomeOf (provider : Remote) : Option ModelReply → Except Failure Json
  | some reply => payload provider.service provider.policy.timeout reply
  | none => .error (.runtime "no outcome left")

-- ---------------------------------------------------------------------------
-- One request
-- ---------------------------------------------------------------------------

/-- A request as its service takes it. The one of a client that was built for a
model is the prompt alone. -/
def requestEvent (provider : Remote) (prompt : String) : Event :=
  match provider.service with
  | .openai => .completionAsked
      [("model", .str provider.model),
        ("messages", .arr [.obj [("role", .str "user"), ("content", .str prompt)]]),
        ("response_format", .obj [("type", .str "json_object")]), ("max_tokens", .int 2000),
        ("timeout", .num provider.policy.timeout)]
  | .anthropic => .messageSent prompt
  | .ollama => .posted (provider.baseUrl ++ "/api/generate")
      (.obj [("model", .str provider.model), ("prompt", .str prompt), ("stream", .bool false),
        ("format", .str "json")])
      provider.policy.timeout

/-- What shows of the client when a request is sent: it is built, unless it is
there already or the service has none. -/
def clientEvents (provider : Remote) (client : Client) : List Event :=
  if provider.service = .ollama ∨ client.isBuilt then []
  else [.clientBuilt (provider.clientSettings provider.policy.timeout)]

def clientAfter (provider : Remote) (client : Client) : Client :=
  ⟨client.isBuilt || provider.service != .ollama⟩

theorem clientEvents_clientAfter (provider : Remote) (client : Client) :
    provider.clientEvents (provider.clientAfter client) = [] := by
  unfold clientEvents clientAfter
  cases provider.service <;> simp

theorem clientAfter_clientAfter (provider : Remote) (client : Client) :
    provider.clientAfter (provider.clientAfter client) = provider.clientAfter client := by
  unfold clientAfter
  cases provider.service <;> simp

theorem runOn_submit (provider : Remote) (prompt : String) (client : Client) (session : Session) :
    (provider.submit prompt provider.policy.timeout).runOn (client, session) =
      (.ok (), (provider.clientAfter client, session.advance 0
        (provider.clientEvents client ++ [provider.requestEvent prompt]) [])) := by
  obtain ⟨isBuilt⟩ := client
  cases h : provider.service <;> cases isBuilt <;>
    simp [submit, h, buildClient, runOn_bind, clientAfter, clientEvents, requestEvent,
      completionRequest, maxTokens, generateRequest, generateUrl, Session.emit, Session.record,
      Session.advance]

theorem runOn_send (provider : Remote) (prompt : String) (client : Client) (session : Session) :
    (provider.send prompt provider.policy.timeout).runOn (client, session) =
      (provider.outcomeOf session.modelReplies.head?, (provider.clientAfter client,
        session.advance 1
          (provider.clientEvents client ++ [provider.requestEvent prompt]) [])) := by
  simp only [send, runOn_bind, runOn_submit, Session.nextModelReply, Action.runOn_onSecond,
    Action.runOn_get, Session.advance, List.drop_zero]
  rcases session with ⟨_, _, _ | ⟨reply, later⟩⟩
  · rfl
  · rfl

-- ---------------------------------------------------------------------------
-- One call
-- ---------------------------------------------------------------------------

def outcomes (provider : Remote) (replies : List ModelReply) (i : Nat) : Except Failure Json :=
  provider.outcomeOf replies[i]?

/-- How many replies in front are failures of the transport. -/
def leadingFailures (provider : Remote) (replies : List ModelReply) : Nat :=
  replies.findIdx fun reply => !reply.isTransportFailure provider.service

/-- How many requests a call sends: up to the first reply that is no failure of
the transport, but no more than the policy allows, which are always one or more.
A request that finds no reply left is not sent again either. -/
def requestCount (provider : Remote) (replies : List ModelReply) : Nat :=
  min (max 1 provider.policy.maxAttempts).toNat (provider.leadingFailures replies + 1)

theorem leadingFailures_of_settled {provider : Remote} {reply : ModelReply}
    (settled : reply.isTransportFailure provider.service = false)
    (later : List ModelReply) : provider.leadingFailures (reply :: later) = 0 := by
  simp [leadingFailures, List.findIdx_cons, settled]

theorem requestCount_pos (provider : Remote) (replies : List ModelReply) :
    0 < provider.requestCount replies :=
  Nat.lt_min.mpr ⟨provider.policy.attempts_pos, Nat.succ_pos _⟩

def pausedRequests (provider : Remote) (prompt : String) (count : Nat) : List Event :=
  (List.range count).flatMap fun (i : Nat) =>
    [provider.requestEvent prompt, .slept (provider.policy.baseDelay.mul (.ofNat (i + 1)))]

theorem pausedRequests_succ (provider : Remote) (prompt : String) (count : Nat) :
    provider.pausedRequests prompt (count + 1) = provider.pausedRequests prompt count ++
      [provider.requestEvent prompt,
        .slept (provider.policy.baseDelay.mul (.ofNat (count + 1)))] := by
  simp [pausedRequests, List.range_succ]

def warningLine (provider : Remote) (replies : List ModelReply) (i : Nat) : List LogLine :=
  (transport? (provider.outcomes replies i)).toList.map fun failure =>
    ⟨.warning, provider.request.failureLine (i + 1) failure⟩

def warningLines (provider : Remote) (replies : List ModelReply) (count : Nat) : List LogLine :=
  (List.range count).flatMap (provider.warningLine replies)

theorem warningLines_succ (provider : Remote) (replies : List ModelReply) (count : Nat) :
    provider.warningLines replies (count + 1) =
      provider.warningLines replies count ++ provider.warningLine replies count := by
  simp [warningLines, List.range_succ]

def course (provider : Remote) (prompt : String) (client : Client) (session : Session) :
    Retry.Course provider.request
      fun timeout => Action.onSecond (provider.send prompt timeout) where
  outcome := provider.outcomes session.modelReplies
  before
    | 0 => (client, session)
    | i + 1 => (provider.clientAfter client, session.advance (i + 1)
        (provider.clientEvents client ++ provider.pausedRequests prompt (i + 1))
        (provider.warningLines session.modelReplies (i + 1)))
  after i := (provider.clientAfter client, session.advance (i + 1)
    (provider.clientEvents client ++
      (provider.pausedRequests prompt i ++ [provider.requestEvent prompt]))
    (provider.warningLines session.modelReplies i))
  sends i := by
    cases i with
    | zero =>
      simp [runOn_send, outcomes, pausedRequests, warningLines, List.head?_eq_getElem?, request]
    | succ i =>
      simp [runOn_send, outcomes, clientEvents_clientAfter, clientAfter_clientAfter, request,
        Session.advance_advance]
      simp [Session.advance]
  pauses i failure h := by
    simp [request, Session.sleep, Session.emit, Session.record, Session.note, Session.advance,
      pausedRequests, warningLines, warningLine, List.range_succ, h, transport?,
      ← Retry.Policy.delayFor_natCast]

theorem failed_of_lt (provider : Remote) (replies : List ModelReply)
    (h : j < provider.leadingFailures replies) :
    (transport? (provider.outcomes replies j)).isSome := by
  have lt := Nat.lt_of_lt_of_le h List.findIdx_le_length
  have failed := List.not_of_lt_findIdx h
  rw [outcomes, List.getElem?_eq_getElem lt, outcomeOf, isSome_transport?_payload]
  simpa using failed

theorem settled_after_leadingFailures (provider : Remote) (replies : List ModelReply) :
    transport? (provider.outcomes replies (provider.leadingFailures replies)) = none := by
  by_cases lt : provider.leadingFailures replies < replies.length
  · have settled : (!(replies[provider.leadingFailures replies]).isTransportFailure
        provider.service) = true := List.findIdx_getElem (w := lt)
    rw [outcomes, List.getElem?_eq_getElem lt, outcomeOf, ← Option.not_isSome_iff_eq_none,
      isSome_transport?_payload]
    simpa using settled
  · rw [outcomes, List.getElem?_eq_none (Nat.le_of_not_lt lt)]
    rfl

/-- How the requests of a call end: the last of them settles it, or is the last
that the policy allows. -/
theorem course_concludes (provider : Remote) (prompt : String) (client : Client)
    (session : Session) :
    let last := provider.requestCount session.modelReplies - 1
    ∃ progress, (provider.request.run fun timeout =>
        Action.onSecond (provider.send prompt timeout)).runOn ({}, client, session) =
      (concluded (provider.outcomes session.modelReplies last) (last + 1),
        (progress, (provider.course prompt client session).ending last)) := by
  intro last
  have count : provider.requestCount session.modelReplies =
      min provider.policy.attempts (provider.leadingFailures session.modelReplies + 1) := rfl
  have positive := provider.policy.attempts_pos
  refine (provider.course prompt client session).run_concluded
    (show last < provider.policy.attempts by omega)
    (fun j hj => provider.failed_of_lt session.modelReplies (by omega)) ?_
  by_cases within : provider.leadingFailures session.modelReplies < provider.policy.attempts
  · left
    rw [show last = provider.leadingFailures session.modelReplies by omega]
    exact provider.settled_after_leadingFailures session.modelReplies
  · right
    show last + 1 = provider.policy.attempts
    omega

theorem course_ending (provider : Remote) (prompt : String) (client : Client) (session : Session)
    (i : Nat) :
    (provider.course prompt client session).ending i =
      (provider.clientAfter client, session.advance (i + 1)
        (provider.clientEvents client ++
          (provider.pausedRequests prompt i ++ [provider.requestEvent prompt]))
        (provider.warningLines session.modelReplies (i + 1))) := by
  have outcome : (provider.course prompt client session).outcome i =
      provider.outcomes session.modelReplies i := rfl
  rw [warningLines_succ, warningLine, Retry.Course.ending, outcome]
  cases transport? (provider.outcomes session.modelReplies i) with
  | none => simp [course]
  | some failure => simp [course, request, Session.note, Session.advance]

end Remote

end PatchReview
