import PatchReview.Proofs.CommandLine
import PatchReview.Proofs.Report

/-!
# Where reviews come from

A provider of the project writes no review that is not in the schema, so none
is in a report, and none is printed, saved or posted: the command line delivers
what reviewing gave it and nothing else (`reviewAndDeliver_eq`). Providers of
the caller's own are not bound to the schema.
-/

namespace PatchReview

open PatchReview.Action (runOn_bind_eq_ok runOn_onSecond_eq)

-- ---------------------------------------------------------------------------
-- Providers
-- ---------------------------------------------------------------------------

theorem Payload.check_of_validate
    (h : (Payload.validate source payload).runOn session = (.ok review, after)) :
    Review.check payload = .valid review := by
  unfold Payload.validate at h
  split at h
  · next found checked =>
    cases h
    exact checked
  · obtain ⟨_, _, -, h⟩ := runOn_bind_eq_ok.mp h
    cases h

theorem Remote.inSchema_of_generate {provider : Remote}
    (h : (provider.generate prompt).runOn state = (.ok review, after)) : review.InSchema := by
  unfold generate at h
  split at h
  · cases h
  · obtain ⟨_, _, -, h⟩ := runOn_bind_eq_ok.mp h
    obtain ⟨_, _, -, h⟩ := runOn_bind_eq_ok.mp h
    exact Review.inSchema_of_check (Payload.check_of_validate (runOn_onSecond_eq.mp h).1)

namespace Provider

theorem mem_mockComment : '#' ∈ mockComment.toList := by
  have first : '#' ∈ "## 🤖 AI PR Review (Mock Mode)".toList := by decide
  rw [mockComment, String.intercalate_cons_cons]
  simp only [String.toList_append, List.mem_append]
  exact .inl (.inl first)

theorem inSchema_mockReview : mockReview.InSchema where
  comment := ⟨'#', mem_mockComment, by decide⟩
  confidence := by
    have : mockReview.confidence = .finite false 7205759403792794 (-53) := by decide +kernel
    rw [this]
    exact ⟨_, rfl, by norm_num [Binary64.signed], by norm_num [Binary64.signed]⟩
  categories c _ := c.name_mem
  distinct := Category.nodup_all

theorem runOn_generateMock (delay : Binary64) (session : Session) :
    (generateMock delay).runOn session = (.ok mockReview,
      let noted := session.note .info "Using mock provider - generating synthetic review"
      if delay.isZero then noted else noted.record (.slept delay)) := by
  unfold generateMock
  cases h : delay.isZero <;> rfl

theorem inSchema_of_generate {provider : Provider} (builtIn : provider.isBuiltIn = true)
    (h : (provider.generate prompt).runOn state = (.ok review, after)) : review.InSchema := by
  cases provider with
  | mock delay =>
    have same := (runOn_onSecond_eq (x := generateMock delay)).mp h |>.1.symm.trans
      (runOn_generateMock delay state.2)
    cases congrArg Prod.fst same
    exact inSchema_mockReview
  | remote provider => exact provider.inSchema_of_generate h
  | custom provider => cases builtIn

end Provider

-- ---------------------------------------------------------------------------
-- Reports
-- ---------------------------------------------------------------------------

def Report.InSchema (report : Report) : Prop := ∀ review ∈ report.review, review.InSchema

def AreBuiltIn (provider : Option Provider) : Prop := ∀ p ∈ provider, p.isBuiltIn = true

theorem inSchema_of_writeReview (builtIn : AreBuiltIn provider)
    (h : (writeReview files issues provider useModel).runOn session = (.ok written, after)) :
    ∀ used review, written = some (used, review) → review.InSchema := by
  rintro used review rfl
  unfold writeReview at h
  split at h
  · obtain ⟨_, _, -, h⟩ := runOn_bind_eq_ok.mp h
    cases h
  · split at h
    · obtain ⟨_, _, -, h⟩ := runOn_bind_eq_ok.mp h
      cases h
    · obtain ⟨found, _, generated, h⟩ := runOn_bind_eq_ok.mp h
      obtain ⟨_, _, -, h⟩ := runOn_bind_eq_ok.mp h
      cases h
      have usedBuiltIn : (provider.getD (.mock (.zero false))).isBuiltIn = true := by
        cases provider with
        | none => rfl
        | some p => exact builtIn p rfl
      rw [Provider.generateOnce, Action.runOn_withFresh, Prod.mk.injEq] at generated
      exact Provider.inSchema_of_generate usedBuiltIn (Prod.ext generated.1 rfl)

theorem inSchema_of_reviewFiles (builtIn : AreBuiltIn provider)
    (h : (reviewFiles pool files provider useModel).runOn session = (.ok report, after)) :
    report.InSchema := by
  obtain ⟨_, _, -, h⟩ := runOn_bind_eq_ok.mp h
  obtain ⟨_, _, -, h⟩ := runOn_bind_eq_ok.mp h
  obtain ⟨written, _, hwritten, h⟩ := runOn_bind_eq_ok.mp h
  obtain ⟨_, _, -, h⟩ := runOn_bind_eq_ok.mp h
  cases h
  intro review hreview
  obtain ⟨⟨used, found⟩, hw, rfl⟩ := Option.map_eq_some_iff.mp hreview
  exact inSchema_of_writeReview builtIn hwritten used found hw

namespace CommandLine

theorem areBuiltIn_of_chooseProvider
    (h : (chooseProvider options settings).runOn session = (.ok provider, after)) :
    AreBuiltIn provider := by
  cases noLlm : options.noLlm with
  | true =>
    unfold chooseProvider at h
    rw [if_pos noLlm] at h
    cases h
    rintro p ⟨⟩
  | false =>
    obtain ⟨_, chooses, -⟩ := exists_runOn_chooseProvider noLlm settings session
    rw [chooses] at h
    cases h
    rintro p ⟨⟩
    exact Provider.isBuiltIn_chosen ..

theorem inSchema_of_review
    (h : (review options settings files).runOn session = (.ok report, after)) :
    report.InSchema := by
  obtain ⟨_, _, -, h⟩ := runOn_bind_eq_ok.mp h
  obtain ⟨provider, _, chosen, h⟩ := runOn_bind_eq_ok.mp h
  exact inSchema_of_reviewFiles (areBuiltIn_of_chooseProvider chosen) h

end CommandLine

-- ---------------------------------------------------------------------------
-- All ways of a review
-- ---------------------------------------------------------------------------

/-- A review that a provider of the project writes is in the schema, so is that
of a report, and a run of the command line delivers such reports only. -/
theorem reviews_inSchema :
    (∀ provider prompt state review after, Provider.isBuiltIn provider = true →
      (provider.generate prompt).runOn state = (.ok review, after) → review.InSchema) ∧
    (∀ pool files provider useModel session report after, AreBuiltIn provider →
      (reviewFiles pool files provider useModel).runOn session = (.ok report, after) →
      report.InSchema) ∧
    ∀ options settings files pullRequest,
      CommandLine.reviewAndDeliver options settings files pullRequest =
        (CommandLine.review options settings files >>= CommandLine.deliver options pullRequest) ∧
      ∀ session report after,
        (CommandLine.review options settings files).runOn session = (.ok report, after) →
        report.InSchema := by
  refine ⟨?_, ?_, fun options settings files pullRequest => ⟨?_, ?_⟩⟩
  · intro provider prompt state review after builtIn h
    exact Provider.inSchema_of_generate builtIn h
  · intro pool files provider useModel session report after builtIn h
    exact inSchema_of_reviewFiles builtIn h
  · exact CommandLine.reviewAndDeliver_eq options settings files pullRequest
  · intro session report after h
    exact CommandLine.inSchema_of_review h

theorem reviews_inSchema_keyed :
    let reply := ModelReply.content
      (.str "\x7b\"comment\": \"Fine\", \"confidence\": 1, \"categories\": [\"security\"]\x7d")
    let review : Review := ⟨"Fine", .ofNat 1, [.security]⟩
    (∃ after, ((Provider.remote (.keyed .anthropic)).generate "prompt").runOn
      ({}, .ofReplies [reply]) = (.ok review, after)) ∧ review.InSchema := by
  intro reply review
  have answered : (((Provider.remote (.keyed .anthropic)).generate "prompt").runOn
      ({}, .ofReplies [reply])).1 = .ok review := by decide +kernel
  rcases run : ((Provider.remote (.keyed .anthropic)).generate "prompt").runOn
    ({}, .ofReplies [reply]) with ⟨result, after⟩
  rw [run] at answered
  subst answered
  exact ⟨⟨after, rfl⟩, reviews_inSchema.1 _ _ _ _ _ rfl run⟩

end PatchReview
