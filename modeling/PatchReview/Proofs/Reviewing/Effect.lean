import PatchReview.Proofs.Provider.Reviews
import PatchReview.Proofs.Reviewing.Report

/-!
# What a review depends on

A provider goes by the replies of the model and by nothing else of a session,
and so does a review, but for the time it took (`exists_runOn_reviewFiles`):
the log, the disk, what was shown before and the number of workers have no say
in its report, or in its failure, and none in what it shows. A session it
leaves differs from the one it began with by what was taken and added.
-/

namespace PatchReview

open PatchReview.Action (runOn_bind_ok runOn_bind_error)

-- ---------------------------------------------------------------------------
-- Providers
-- ---------------------------------------------------------------------------

theorem Provider.exists_runOn_generateMock (delay : Binary64) : ∃ events lines,
    ∀ session : Session, (generateMock delay).runOn session =
      (.ok mockReview, session.advance 0 events lines) := by
  refine ⟨if delay.isZero then [] else [.slept delay],
    [⟨.info, "Using mock provider - generating synthetic review"⟩], fun session => ?_⟩
  rw [runOn_generateMock]
  cases delay.isZero <;>
    simp [Session.note_eq_advance, Session.record_eq_advance, Session.advance_advance]

/-- What a provider answers, takes and adds depends on the replies alone. -/
theorem Provider.exists_runOn_generateOnce (provider : Provider) (prompt : String)
    (queue : List ModelReply) : ∃ result n events lines, ∀ session : Session,
      session.modelReplies = queue →
      (provider.generateOnce prompt).runOn session =
        (result, session.advance n events lines) := by
  cases provider with
  | mock delay =>
    obtain ⟨events, lines, runs⟩ := exists_runOn_generateMock delay
    refine ⟨.ok mockReview, 0, events, lines, fun session _ => ?_⟩
    rw [generateOnce, Action.runOn_withFresh, generate, Action.runOn_onSecond, runs]
  | remote provider =>
    by_cases ready : provider.IsReady
    · let call := Call.of provider prompt queue
      refine ⟨call.result provider, call.requests,
        provider.clientEvents {} ++ call.events provider, call.lines provider, ?_⟩
      rintro session rfl
      rw [generateOnce, Action.runOn_withFresh, generate, provider.runOn_generate ready]
    · refine ⟨.error (.missingCredential provider.service.name), 0, [], [], fun session _ => ?_⟩
      rw [generateOnce, Action.runOn_withFresh, generate,
        provider.runOn_generate_of_not_ready ready, Session.advance_zero]
  | custom provider =>
    refine ⟨provider.answer prompt, 0, [.consulted prompt], [], fun session _ => ?_⟩
    rw [← Session.record_eq_advance]
    rfl

-- ---------------------------------------------------------------------------
-- Reviews
-- ---------------------------------------------------------------------------

section
variable (files : List ChangedFile) (provider : Option Provider) (useModel : Bool)
  (queue : List ModelReply)

theorem exists_runOn_writeReview (issues : List Issue) : ∃ result n events lines,
    ∀ session : Session, session.modelReplies = queue →
      (writeReview files issues provider useModel).runOn session =
        (result, session.advance n events lines) := by
  by_cases due : useModel = true ∧ issues ≠ []
  · obtain ⟨answer, n, events, lines, runs⟩ :=
      (providerOr provider).exists_runOn_generateOnce (Prompt.build issues files) queue
    rw [writeReview_due due.1 due.2]
    cases answer with
    | error failure =>
      exact ⟨.error failure, n, events, lines, fun session same =>
        runOn_bind_error (runs session same)⟩
    | ok review =>
      refine ⟨.ok (some (providerOr provider, review)), n, events, lines ++
        [⟨.info, s!"Generated AI review (confidence {review.confidence.fixed})"⟩],
        fun session same => ?_⟩
      rw [runOn_bind_ok (runs session same), runOn_bind_ok (Session.runOn_info ..),
        Session.note_eq_advance, Session.advance_advance, Action.runOn_pure, Nat.add_zero,
        List.append_nil]
  · unfold writeReview
    cases useModel with
    | false =>
      refine ⟨.ok none, 0, [],
        [⟨.info, "LLM disabled - returning rule-based findings only"⟩], fun session _ => ?_⟩
      rw [← Session.note_eq_advance]
      rfl
    | true =>
      cases issues with
      | cons issue rest => exact absurd ⟨rfl, List.cons_ne_nil issue rest⟩ due
      | nil =>
        refine ⟨.ok none, 0, [], [⟨.info, "No issues found, skipping AI review"⟩],
          fun session _ => ?_⟩
        rw [← Session.note_eq_advance]
        rfl

/-- What a review comes to, takes and adds depends on the replies, and its
report also on the time between two readings of the clock. -/
theorem exists_runOn_reviewFiles : ∃ (written : Except Failure (Option (Provider × Review))),
    ∃ n events lines, ∀ pool (session : Session), session.modelReplies = queue →
      ∃ after, session.OnFrom n events lines after ∧
        (reviewFiles pool files provider useModel).runOn session =
          (written.map (Report.of files (files.flatMap tableIssues) session.elapsed), after) := by
  obtain ⟨written, n, events, lines, runs⟩ :=
    exists_runOn_writeReview files provider useModel queue (files.flatMap tableIssues)
  refine ⟨written, n, events, [⟨.info, analysisLine files⟩] ++ lines, fun pool session same => ?_⟩
  have writes := runs (session.analyzed files) (session.modelReplies_ticked.trans same)
  have went : session.OnFrom n events ([⟨.info, analysisLine files⟩] ++ lines)
      ((session.analyzed files).advance n events lines) := by
    have passed := (session.onFrom_ticked.advance 0 [] [⟨.info, analysisLine files⟩]).advance
      n events lines
    rw [Session.analyzed, Session.note_eq_advance]
    simpa only [Nat.zero_add, List.nil_append] using passed
  rw [runOn_reviewFiles]
  cases written with
  | error failure => exact ⟨_, went, runOn_bind_error writes⟩
  | ok written =>
    refine ⟨_, went.ticked, ?_⟩
    rw [runOn_bind_ok writes, runOn_bind_ok (Session.runOn_readClock _)]
    rfl

end

end PatchReview
