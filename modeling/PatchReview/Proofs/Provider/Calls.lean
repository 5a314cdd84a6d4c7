import PatchReview.Pool
import PatchReview.Proofs.Provider.Requests

/-!
# Calls for reviews

What a provider does when it is called, and when it is called again and again:
`runOn_generate` gives the result of a call and everything it does to the
client and the session, `runOn_generateEach` the same for any number of calls.
Only the replies to its own requests enter the result of a call, and each of
these carries the prompt of the call to the model of the provider.
-/

namespace PatchReview

open PatchReview.Action (runOn_bind runOn_bind_ok runOn_bind_error)
open Retry (concluded)

namespace Remote

def announcement (provider : Remote) : LogLine :=
  ⟨.info, s!"Calling {provider.service.name} ({provider.model}) for review generation"⟩

def verdict (provider : Remote) (payload : Json) : Except Failure Review :=
  match Review.check payload with
  | .valid review => .ok review
  | .invalid violations =>
    .error (.invalidOutput (.invalid provider.service.name Review.modelName violations))

def complaints (provider : Remote) (payload : Json) : List LogLine :=
  match Review.check payload with
  | .valid _ => []
  | .invalid violations =>
    let headline := Schema.headline Review.modelName violations
    [⟨.error, s!"Failed to validate {provider.service.name} response: {headline}"⟩]

theorem runOn_validate (provider : Remote) (payload : Json) (session : Session) :
    (Payload.validate provider.service.name payload).runOn session =
      (provider.verdict payload, session.advance 0 [] (provider.complaints payload)) := by
  unfold Payload.validate verdict complaints
  cases Review.check payload with
  | valid review => simp [Session.advance_zero]
  | invalid violations => simp [runOn_bind, Session.logError, Session.note, Session.advance]

end Remote

/-- A call for a review: its prompt, how many requests it sent, and the replies
to them. -/
structure Call where
  prompt : String
  requests : Nat
  replies : List ModelReply

namespace Call

def of (provider : Remote) (prompt : String) (queue : List ModelReply) : Call where
  prompt := prompt
  requests := provider.requestCount queue
  replies := queue.take (provider.requestCount queue)

variable (provider : Remote) (call : Call)

def outcome : Except Failure Json := provider.outcomeOf call.replies[call.requests - 1]?

/-- The payload in the end, or why there is none. -/
def answer : Except Failure Json := Retry.concluded (call.outcome provider) call.requests

def result : Except Failure Review := (call.answer provider).bind provider.verdict

def events : List Event :=
  provider.pausedRequests call.prompt (call.requests - 1) ++ [provider.requestEvent call.prompt]

def lines : List LogLine :=
  provider.announcement ::
    provider.warningLines call.replies call.requests ++
    match call.answer provider with
    | .ok payload => provider.complaints payload
    | .error _ => []

end Call

namespace Remote

theorem outcomes_take (provider : Remote) (replies : List ModelReply) (h : i < k) :
    provider.outcomes (replies.take k) i = provider.outcomes replies i := by
  rw [outcomes, outcomes, List.getElem?_take_of_lt h]

theorem warningLines_take (provider : Remote) (replies : List ModelReply) (count : Nat) :
    provider.warningLines (replies.take count) count = provider.warningLines replies count := by
  refine congrArg List.flatten (List.map_congr_left fun i hi => ?_)
  rw [warningLine, warningLine, outcomes_take provider replies (List.mem_range.mp hi)]

theorem runOn_requests (provider : Remote) (prompt : String) (client : Client) (session : Session) :
    let call := Call.of provider prompt session.modelReplies
    (Action.withFresh {} (provider.request.run fun timeout =>
        Action.onSecond (provider.send prompt timeout))).runOn (client, session) =
      (call.answer provider, (provider.clientAfter client, session.advance call.requests
        (provider.clientEvents client ++ call.events provider)
        (provider.warningLines call.replies call.requests))) := by
  intro call
  obtain ⟨progress, run⟩ := provider.course_concludes prompt client session
  have count : provider.requestCount session.modelReplies - 1 + 1 = call.requests :=
    Nat.sub_add_cancel (provider.requestCount_pos session.modelReplies)
  have answer : call.answer provider = concluded
      (provider.outcomes session.modelReplies (call.requests - 1)) call.requests :=
    congrArg (concluded · call.requests)
      (provider.outcomes_take session.modelReplies
        (show call.requests - 1 < call.requests by omega))
  have lines : provider.warningLines call.replies call.requests =
      provider.warningLines session.modelReplies call.requests :=
    provider.warningLines_take session.modelReplies call.requests
  rw [Action.runOn_withFresh, run, course_ending, count, answer, lines]
  rfl

/-- The credential that a service needs is there. -/
def IsReady (provider : Remote) : Prop :=
  provider.service.needsCredential = true → provider.hasCredential = true

def keyed (service : Service) : Remote := .make service (some "key") none none none

theorem isReady_keyed (service : Service) : (keyed service).IsReady := by
  cases service <;> exact fun h => by first | rfl | cases h

theorem runOn_generate (provider : Remote) (ready : provider.IsReady) (prompt : String)
    (client : Client) (session : Session) :
    let call := Call.of provider prompt session.modelReplies
    (provider.generate prompt).runOn (client, session) =
      (call.result provider, (provider.clientAfter client, session.advance call.requests
        (provider.clientEvents client ++ call.events provider) (call.lines provider))) := by
  intro call
  have allowed : (provider.service.needsCredential && !provider.hasCredential) = false := by
    cases h : provider.service.needsCredential with
    | false => rfl
    | true => rw [ready h]; rfl
  have announced : (Session.info
      s!"Calling {provider.service.name} ({provider.model}) for review generation").runOn session =
      (.ok (), session.advance 0 [] [provider.announcement]) := by
    simp [Session.info, Session.note, Session.advance, announcement]
  simp only [generate, allowed, Bool.false_eq_true, ↓reduceIte]
  rw [runOn_bind_ok (by rw [Action.runOn_onSecond, announced])]
  have requests := provider.runOn_requests prompt client
    (session.advance 0 [] [provider.announcement])
  simp only [Session.modelReplies_advance, List.drop_zero, Session.advance_advance] at requests
  cases answer : call.answer provider with
  | ok payload =>
    rw [runOn_bind_ok (requests.trans (congrArg (·, _) answer)), Action.runOn_onSecond,
      runOn_validate, Session.advance_advance]
    simp [Call.result, Call.lines, answer, Except.bind]
    rfl
  | error failure =>
    rw [runOn_bind_error (requests.trans (congrArg (·, _) answer))]
    simp [Call.result, Call.lines, answer, Except.bind]
    rfl

theorem runOn_generate_of_not_ready (provider : Remote) (notReady : ¬provider.IsReady)
    (prompt : String)
    (state : Client × Session) :
    (provider.generate prompt).runOn state =
      (.error (.missingCredential provider.service.name), state) := by
  obtain ⟨needed, missing⟩ := Classical.not_imp.mp notReady
  have refused : (provider.service.needsCredential && !provider.hasCredential) = true := by
    simp [needed, missing]
  rw [generate, if_pos refused]
  rfl

theorem exists_runOn_generate (provider : Remote) (ready : provider.IsReady) (prompt : String)
    (client : Client) (session : Session) :
    ∃ after, (provider.generate prompt).runOn (client, session) =
      ((Call.of provider prompt session.modelReplies).result provider, after) :=
  ⟨_, provider.runOn_generate ready prompt client session⟩

-- ---------------------------------------------------------------------------
-- Call after call
-- ---------------------------------------------------------------------------

/-- Calls for one prompt after the other, each of which may fail. -/
def generateEach (provider : Remote) (prompts : List String) :
    Action (Client × Session) (List (Except Failure Review)) :=
  Pool.each (fun prompt => Action.outcome (provider.generate prompt)) prompts

theorem generateEach_cons (provider : Remote) (prompt : String) (rest : List String) :
    provider.generateEach (prompt :: rest) = (do
      let result ← Action.outcome (provider.generate prompt)
      let others ← provider.generateEach rest
      return result :: others) := rfl

/-- The calls for the prompts, each of which takes its replies from what those
before it left. -/
def calls (provider : Remote) : List String → List ModelReply → List Call
  | [], _ => []
  | prompt :: rest, queue =>
    let call := Call.of provider prompt queue
    call :: provider.calls rest (queue.drop call.requests)

def requestsOf : List Call → Nat
  | [] => 0
  | call :: later => call.requests + requestsOf later

/-- The client is built by the first request of all, if it is not there. -/
def clientEventsOf (provider : Remote) (client : Client) : List Call → List Event
  | [] => []
  | _ :: _ => provider.clientEvents client

def clientAfterAll (provider : Remote) (client : Client) : List Call → Client
  | [] => client
  | _ :: _ => provider.clientAfter client

theorem clientEventsOf_clientAfter (provider : Remote) (client : Client) (calls : List Call) :
    provider.clientEventsOf (provider.clientAfter client) calls = [] := by
  cases calls with
  | nil => rfl
  | cons => exact provider.clientEvents_clientAfter client

theorem clientAfterAll_clientAfter (provider : Remote) (client : Client) (calls : List Call) :
    provider.clientAfterAll (provider.clientAfter client) calls = provider.clientAfter client := by
  cases calls with
  | nil => rfl
  | cons => exact provider.clientAfter_clientAfter client

theorem runOn_calls (provider : Remote) (ready : provider.IsReady) (prompts : List String)
    (client : Client) (session : Session) :
    let calls := provider.calls prompts session.modelReplies
    (provider.generateEach prompts).runOn (client, session) =
      (.ok (calls.map (·.result provider)), (provider.clientAfterAll client calls,
        session.advance (requestsOf calls)
          (provider.clientEventsOf client calls ++ calls.flatMap (·.events provider))
          (calls.flatMap (·.lines provider)))) := by
  induction prompts generalizing client session with
  | nil =>
    simp [generateEach, Pool.each, calls, requestsOf, clientEventsOf, clientAfterAll,
      Session.advance_zero]
  | cons prompt rest ih =>
    obtain ⟨call, hcall⟩ : ∃ call, Call.of provider prompt session.modelReplies = call := ⟨_, rfl⟩
    have first := provider.runOn_generate ready prompt client session
    have later := ih (provider.clientAfter client) (session.advance call.requests
      (provider.clientEvents client ++ call.events provider) (call.lines provider))
    simp only [Session.modelReplies_advance, clientEventsOf_clientAfter, clientAfterAll_clientAfter,
      Session.advance_advance, List.nil_append] at later
    rw [hcall] at first
    rw [generateEach_cons, runOn_bind_ok (by rw [Action.runOn_outcome, first]), runOn_bind_ok later,
      Action.runOn_pure]
    simp only [calls, hcall, List.map_cons, requestsOf, List.flatMap_cons, clientEventsOf,
      clientAfterAll, List.append_assoc]

end Remote

-- ---------------------------------------------------------------------------
-- What is asked for
-- ---------------------------------------------------------------------------

/-- The prompt that a request carries, where its service looks for it. -/
def Event.prompt? : Event → Option Json
  | .completionAsked request =>
    match request.lookup "messages" with
    | some (.arr [message]) => message.field? "content"
    | _ => none
  | .messageSent prompt => some (.str prompt)
  | .posted _ body _ => body.field? "prompt"
  | _ => none

def Event.model? : Event → Option Json
  | .completionAsked fields | .clientBuilt fields => fields.lookup "model"
  | .posted _ body _ => body.field? "model"
  | _ => none

/-- The model and the prompt of each request among some events. A request that
names no model goes to the one that its client was built for. -/
def asked (clientModel : Option Json) : List Event → List (Option Json × Json)
  | [] => []
  | .clientBuilt settings :: later => asked (Event.clientBuilt settings).model? later
  | event :: later =>
    (event.prompt?.map (event.model?.or clientModel, ·)).toList ++ asked clientModel later

namespace Remote

section
variable {provider : Remote} {known : Option Json}
  (told : provider.service = .anthropic → known = some (.str provider.model))
include told

theorem asked_requestEvent (prompt : String) (later : List Event) :
    asked known (provider.requestEvent prompt :: later) =
      (some (.str provider.model), .str prompt) :: asked known later := by
  unfold requestEvent
  cases h : provider.service with
  | openai | ollama => rfl
  | anthropic => rw [told h]; rfl

theorem asked_pausedRequests (prompt : String) (count : Nat) (later : List Event) :
    asked known (provider.pausedRequests prompt count ++ later) =
      List.replicate count (some (.str provider.model), .str prompt) ++ asked known later := by
  induction count generalizing later with
  | zero => rfl
  | succ count ih =>
    rw [pausedRequests_succ, List.append_assoc, ih, List.cons_append, asked_requestEvent told,
      List.replicate_succ', List.append_assoc]
    rfl

theorem asked_events {call : Call} (sends : 0 < call.requests) (later : List Event) :
    asked known (call.events provider ++ later) =
      List.replicate call.requests (some (.str provider.model), .str call.prompt) ++
        asked known later := by
  obtain ⟨count, more⟩ := Nat.exists_eq_add_of_lt sends
  rw [Nat.zero_add] at more
  rw [Call.events, more, Nat.add_sub_cancel, List.append_assoc, asked_pausedRequests told,
    List.singleton_append, asked_requestEvent told, List.replicate_succ', List.append_assoc]
  rfl

theorem asked_calls (prompts : List String) (queue : List ModelReply) :
    asked known ((provider.calls prompts queue).flatMap (·.events provider)) =
      (provider.calls prompts queue).flatMap fun call =>
        List.replicate call.requests (some (.str provider.model), .str call.prompt) := by
  induction prompts generalizing queue with
  | nil => rfl
  | cons prompt rest ih =>
    rw [calls, List.flatMap_cons, List.flatMap_cons,
      asked_events told (provider.requestCount_pos queue), ih]

end

/-- The model that the requests of a client go to if they name none: the one it
was built for, if it is there. -/
def clientModel (provider : Remote) (client : Client) : Option Json :=
  if provider.service = .anthropic ∧ client.isBuilt then some (.str provider.model) else none

theorem asked_clientEvents (provider : Remote) (client : Client) :
    ∃ known, (provider.service = .anthropic → known = some (.str provider.model)) ∧
      ∀ later, asked (provider.clientModel client) (provider.clientEvents client ++ later) =
        asked known later := by
  unfold clientModel clientEvents clientSettings
  obtain ⟨_ | _⟩ := client <;> cases provider.service
  all_goals first
    | exact ⟨_, fun _ => rfl, fun _ => rfl⟩
    | exact ⟨_, nofun, fun _ => rfl⟩

theorem asked_clientEventsOf (provider : Remote) (client : Client) (prompts : List String)
    (queue : List ModelReply) :
    let calls := provider.calls prompts queue
    asked (provider.clientModel client)
        (provider.clientEventsOf client calls ++ calls.flatMap (·.events provider)) =
      calls.flatMap fun call =>
        List.replicate call.requests (some (.str provider.model), .str call.prompt) := by
  cases prompts with
  | nil => rfl
  | cons prompt rest =>
    obtain ⟨known, told, same⟩ := provider.asked_clientEvents client
    exact (same _).trans (asked_calls told (prompt :: rest) queue)

/-- Calls for one prompt after the other send the requests of each call with the
pauses between them, and a client is built at the first of all. Every request
asks the model of the provider for what the prompt of its call says. -/
theorem runOn_generateEach (provider : Remote) (ready : provider.IsReady) (prompts : List String)
    (client : Client) (session : Session) :
    let calls := provider.calls prompts session.modelReplies
    let events := provider.clientEventsOf client calls ++ calls.flatMap (·.events provider)
    (provider.generateEach prompts).runOn (client, session) =
        (.ok (calls.map (·.result provider)), (provider.clientAfterAll client calls,
          session.advance (requestsOf calls) events (calls.flatMap (·.lines provider)))) ∧
      asked (provider.clientModel client) events = calls.flatMap fun call =>
        List.replicate call.requests (some (.str provider.model), .str call.prompt) :=
  ⟨provider.runOn_calls ready prompts client session,
    provider.asked_clientEventsOf client prompts session.modelReplies⟩

/-- A call that fails three times, and one that is answered at its second request. -/
theorem runOn_generateEach_keyed :
    (keyed .anthropic).IsReady ∧
      let model := (keyed .anthropic).model
      let run := ((keyed .anthropic).generateEach ["first", "second"]).runOn
        ({}, .ofReplies [.timedOut, .timedOut, .timedOut, .timedOut, .content .null])
      run.1 = .ok [.error (.exhausted (.transport (.timedOut .anthropic (.ofNat 30))) 3),
          .error (.invalidOutput (.noText "Anthropic"))] ∧
        run.2.1 = ⟨true⟩ ∧ run.2.2.modelReplies = [] ∧
        asked none run.2.2.trace =
          List.replicate 3 (some (.str model), .str "first") ++
            List.replicate 2 (some (.str model), .str "second") ∧
        run.2.2.trace.filterMap (fun | .slept seconds => some seconds | _ => none) =
          [.ofNat 1, .ofNat 2, .ofNat 1] := by
  refine ⟨isReady_keyed .anthropic, ?_⟩
  rw [(runOn_generateEach (keyed .anthropic) (isReady_keyed .anthropic) ["first", "second"] {}
    (.ofReplies [.timedOut, .timedOut, .timedOut, .timedOut, .content .null])).1]
  exact ⟨rfl, rfl, rfl, rfl, rfl⟩

end Remote

end PatchReview
