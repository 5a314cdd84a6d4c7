import PatchReview.Proofs.Host.Trace
import PatchReview.Proofs.Provider.Reviews
import PatchReview.Proofs.Reviewing.Report

/-!
# What reviewing shows

All that reviewing shows outside are events of asking a model: clients,
requests and pauses. Without findings, or without a model to ask, it shows
nothing. A review that was written comes from the provider, which was asked
for the findings (`generated_of_reviewFiles`).
-/

namespace PatchReview

open PatchReview.Action (Adds Keeps runOn_bind_ok runOn_bind_eq_ok)

def Event.isModel : Event → Bool
  | .hostAsked _ => false
  | _ => true

-- ---------------------------------------------------------------------------
-- Asking a model
-- ---------------------------------------------------------------------------

/-- What is seen of a provider that is asked. -/
inductive Provider.IsEventOf : Provider → Event → Prop where
  | paused : IsEventOf provider (.slept seconds)
  | built {r : Remote} (hasClient : r.service ≠ .ollama) :
    IsEventOf (.remote r) (.clientBuilt (r.clientSettings r.policy.timeout))
  | requested {r : Remote} : IsEventOf (.remote r) (r.requestEvent prompt)
  | consulted {c : CustomProvider} : IsEventOf (.custom c) (.consulted prompt)

theorem Provider.IsEventOf.isModel {provider : Provider} (h : provider.IsEventOf event) :
    event.isModel = true := by
  cases h with
  | paused | built | consulted => rfl
  | @requested _ r =>
    unfold Remote.requestEvent
    cases r.service <;> rfl

namespace Remote

variable (provider : Remote)

theorem isEventOf_of_mem_events (call : Call) (h : event ∈ call.events provider) :
    (Provider.remote provider).IsEventOf event := by
  rw [Call.events, List.mem_append, pausedRequests, List.mem_flatMap] at h
  obtain ⟨i, -, paused⟩ | last := h
  · simp only [List.mem_cons, List.not_mem_nil, or_false] at paused
    obtain rfl | rfl := paused
    · exact .requested
    · exact .paused
  · rw [List.mem_singleton.mp last]
    exact .requested

theorem isEventOf_of_mem_clientEvents (client : Client)
    (h : event ∈ provider.clientEvents client) : (Provider.remote provider).IsEventOf event := by
  unfold clientEvents at h
  split at h
  · cases h
  · next fresh =>
    rw [List.mem_singleton.mp h]
    exact .built fun same => fresh (.inl same)

variable {provider} in
theorem shows_generate (own : ∀ event, (Provider.remote provider).IsEventOf event →
    allowed event = true) (prompt : String) :
    Adds (fun state : Client × Session => state.2.trace) allowed (provider.generate prompt) := by
  rintro ⟨client, session⟩
  by_cases ready : provider.IsReady
  · rw [provider.runOn_generate ready]
    refine ⟨_, rfl, fun event shown => own event ?_⟩
    obtain first | rest := List.mem_append.mp shown
    · exact provider.isEventOf_of_mem_clientEvents client first
    · exact provider.isEventOf_of_mem_events _ rest
  · rw [provider.runOn_generate_of_not_ready ready]
    exact ⟨[], (List.append_nil _).symm, nofun⟩

end Remote

theorem Provider.shows_generateOnce {provider : Provider}
    (own : ∀ event, provider.IsEventOf event → allowed event = true) (prompt : String) :
    Shows allowed (provider.generateOnce prompt) := by
  intro session
  rw [generateOnce, Action.runOn_withFresh]
  cases provider with
  | mock delay =>
    rw [generate, Action.runOn_onSecond, runOn_generateMock]
    cases delay.isZero with
    | true => exact ⟨[], (List.append_nil _).symm, fun _ none => absurd none List.not_mem_nil⟩
    | false =>
      refine ⟨[.slept delay], rfl, fun event shown => own event ?_⟩
      rw [List.mem_singleton.mp shown]
      exact .paused
  | remote provider => exact Remote.shows_generate own prompt ({}, session)
  | custom provider =>
    refine ⟨[.consulted prompt], rfl, fun event shown => own event ?_⟩
    rw [List.mem_singleton.mp shown]
    exact .consulted

-- ---------------------------------------------------------------------------
-- Reviewing
-- ---------------------------------------------------------------------------

theorem Provider.keeps_choose (wanted apiKey baseUrl usedModel : Option String) :
    Keeps Session.trace (choose wanted apiKey baseUrl usedModel) := by
  unfold choose
  split
  · exact .pure _
  · exact (Session.keeps_note _ _).bind fun _ => .pure _

theorem keeps_readClock : Keeps Session.trace Session.readClock := by
  intro session
  rw [session.runOn_readClock]
  exact session.trace_ticked

theorem shows_writeReview {provider : Option Provider}
    (own : ∀ event, (provider.getD (.mock (.zero false))).IsEventOf event → allowed event = true)
    (files : List ChangedFile) (issues : List Issue) (useModel : Bool) :
    Shows allowed (writeReview files issues provider useModel) := by
  unfold writeReview
  split
  · exact (Adds.of_keeps (Session.keeps_note _ _)).bind fun _ => .pure _
  · split
    · exact (Adds.of_keeps (Session.keeps_note _ _)).bind fun _ => .pure _
    · exact (Provider.shows_generateOnce own _).bind fun _ =>
        (Adds.of_keeps (Session.keeps_note _ _)).bind fun _ => .pure _

section
variable (pool : Pool) (files : List ChangedFile) (provider : Option Provider)

theorem keeps_trace_analyzeFiles :
    Keeps Session.trace (analyzeFiles pool Analyzer.builtIn files) :=
  keeps_analyzeFiles Session.trace (fun _ _ _ => rfl) pool Analyzer.builtIn files

variable {provider} in
theorem shows_reviewFiles
    (own : ∀ event, (provider.getD (.mock (.zero false))).IsEventOf event → allowed event = true)
    (useModel : Bool) : Shows allowed (reviewFiles pool files provider useModel) :=
  (Adds.of_keeps keeps_readClock).bind fun _ =>
    (Adds.of_keeps (keeps_trace_analyzeFiles pool files)).bind fun _ =>
      (shows_writeReview own _ _ _).bind fun _ =>
        (Adds.of_keeps keeps_readClock).bind fun _ => .pure _

end

end PatchReview
