import Mathlib.Data.List.TFAE
import PatchReview.Proofs.Analyzer.BuiltIn
import PatchReview.Reviewing

/-!
# What a report says

A report has the issues that the tables find and counts them, and it says of
one provider, wherever it does, that it wrote the review: the provider that was
asked, once and for all issues, if a model may be used and there are issues.
Otherwise no provider is asked and none is named. How often a provider is asked
does not show in a session, so reviewing is also run where its calls are kept
(`watched`), which changes nothing else (`runOn_reviewFilesIn_watched`).
-/

namespace PatchReview

open PatchReview.Action (runOn_bind runOn_bind_ok runOn_bind_error)

-- ---------------------------------------------------------------------------
-- Reviewing where calls are kept
-- ---------------------------------------------------------------------------

/-- What reviewing is done in: a state that holds a session, and a way to ask
providers. -/
structure Surroundings (σ : Type) where
  within : {α : Type} → Action Session α → Action σ α
  ask : Provider → String → Action σ Review

abbrev Watched := List (Provider × String) × Session

namespace Surroundings

def plain : Surroundings Session where
  within act := act
  ask := Provider.generateOnce

def watched : Surroundings Watched where
  within := Action.onSecond
  ask provider prompt := do
    modify fun (calls, session) => (calls ++ [(provider, prompt)], session)
    Action.onSecond (provider.generateOnce prompt)

end Surroundings

def providerOr (provider : Option Provider) : Provider := provider.getD (.mock (.zero false))

section
variable (around : Surroundings σ) (pool : Pool) (files : List ChangedFile) (issues : List Issue)
  (provider : Option Provider) (useModel : Bool)

def writeReviewIn : Action σ (Option (Provider × Review)) :=
  if !useModel then do
    around.within (Session.info "LLM disabled - returning rule-based findings only")
    return none
  else if issues.isEmpty then do
    around.within (Session.info "No issues found, skipping AI review")
    return none
  else do
    let used := providerOr provider
    let review ← around.ask used (Prompt.build issues files)
    around.within (Session.info s!"Generated AI review (confidence {review.confidence.fixed})")
    return some (used, review)

def Report.of (elapsed : Binary64) (written : Option (Provider × Review)) : Report where
  issues := issues
  summary := .of files issues elapsed (written.map (·.1))
  review := written.map (·.2)
  metadata := [("prompt_version", .str Prompt.version),
    ("llm_provider", .ofOption .str (written.map (·.1.name)))]

def reviewFilesIn : Action σ Report := do
  let started ← around.within Session.readClock
  let issues ← around.within (analyzeFiles pool Analyzer.builtIn files)
  let written ← writeReviewIn around files issues provider useModel
  let ended ← around.within Session.readClock
  return .of files issues (ended.sub started) written

theorem writeReviewIn_plain :
    writeReviewIn .plain files issues provider useModel =
      writeReview files issues provider useModel := rfl

theorem reviewFilesIn_plain :
    reviewFilesIn .plain pool files provider useModel =
      reviewFiles pool files provider useModel := by
  unfold reviewFilesIn reviewFiles
  simp only [writeReviewIn_plain, Report.of, Option.map_map]
  rfl

/-- The calls that reviewing makes: one for all issues, if a review is due. -/
def callsFor : List (Provider × String) :=
  if useModel && !issues.isEmpty then [(providerOr provider, Prompt.build issues files)] else []

end

theorem Surroundings.runOn_within_watched (act : Action Session α) (state : Watched) :
    (watched.within act).runOn state =
      ((act.runOn state.2).1, (state.1, (act.runOn state.2).2)) := rfl

theorem Surroundings.runOn_ask_watched (provider : Provider) (prompt : String) (state : Watched) :
    (watched.ask provider prompt).runOn state =
      (((provider.generateOnce prompt).runOn state.2).1, (state.1 ++ [(provider, prompt)],
        ((provider.generateOnce prompt).runOn state.2).2)) := rfl

-- ---------------------------------------------------------------------------
-- Writing a review
-- ---------------------------------------------------------------------------

section
variable {files : List ChangedFile} {issues : List Issue} {provider : Option Provider}
  {useModel : Bool}

theorem writeReviewIn_due (around : Surroundings σ) (allowed : useModel = true)
    (found : issues ≠ []) :
    writeReviewIn around files issues provider useModel = (do
      let review ← around.ask (providerOr provider) (Prompt.build issues files)
      around.within (Session.info s!"Generated AI review (confidence {review.confidence.fixed})")
      return some (providerOr provider, review)) := by
  unfold writeReviewIn
  rw [allowed, if_neg (by decide), if_neg (by simpa using found)]

theorem writeReview_due (allowed : useModel = true) (found : issues ≠ []) :
    writeReview files issues provider useModel = (do
      let review ← (providerOr provider).generateOnce (Prompt.build issues files)
      Session.info s!"Generated AI review (confidence {review.confidence.fixed})"
      return some (providerOr provider, review)) :=
  writeReviewIn_due .plain allowed found

theorem callsFor_due (allowed : useModel = true) (found : issues ≠ []) :
    callsFor files issues provider useModel =
      [(providerOr provider, Prompt.build issues files)] := by
  simp [callsFor, allowed, found]

theorem callsFor_unused (unused : ¬(useModel = true ∧ issues ≠ [])) :
    callsFor files issues provider useModel = [] := by
  simpa [callsFor] using unused

theorem result_writeReview_due (allowed : useModel = true) (found : issues ≠ [])
    (session : Session) :
    ((writeReview files issues provider useModel).runOn session).1 =
      (((providerOr provider).generateOnce (Prompt.build issues files)).runOn session).1.map
        (fun review => some (providerOr provider, review)) := by
  rw [writeReview_due allowed found]
  rcases call : ((providerOr provider).generateOnce (Prompt.build issues files)).runOn session with
    ⟨failure | review, answered⟩
  · rw [runOn_bind_error call]
    rfl
  · rw [runOn_bind_ok call]
    rfl

theorem runOn_writeReview_unused (unused : ¬(useModel = true ∧ issues ≠ [])) (session : Session) :
    ∃ line, (writeReview files issues provider useModel).runOn session =
        (.ok none, session.note .info line) ∧
      ∀ calls, (writeReviewIn .watched files issues provider useModel).runOn (calls, session) =
        (.ok none, (calls, session.note .info line)) := by
  unfold writeReview writeReviewIn
  cases useModel with
  | false => exact ⟨_, rfl, fun _ => rfl⟩
  | true =>
    cases issues with
    | nil => exact ⟨_, rfl, fun _ => rfl⟩
    | cons issue rest => exact absurd ⟨rfl, List.cons_ne_nil issue rest⟩ unused

theorem runOn_writeReviewIn_watched (calls : List (Provider × String)) (session : Session) :
    (writeReviewIn .watched files issues provider useModel).runOn (calls, session) =
      (((writeReview files issues provider useModel).runOn session).1,
        (calls ++ callsFor files issues provider useModel,
          ((writeReview files issues provider useModel).runOn session).2)) := by
  by_cases due : useModel = true ∧ issues ≠ []
  · obtain ⟨allowed, found⟩ := due
    have asks := Surroundings.runOn_ask_watched (providerOr provider) (Prompt.build issues files)
      (calls, session)
    rw [writeReview_due allowed found, writeReviewIn_due _ allowed found,
      callsFor_due allowed found]
    rcases call : ((providerOr provider).generateOnce (Prompt.build issues files)).runOn session
      with ⟨failure | review, answered⟩ <;> rw [call] at asks
    · rw [runOn_bind_error call, runOn_bind_error asks]
    · rw [runOn_bind_ok call, runOn_bind_ok asks]
      rfl
  · obtain ⟨line, runs, watchedRuns⟩ :=
      runOn_writeReview_unused due session
    rw [runs, watchedRuns, callsFor_unused due, List.append_nil]

end

-- ---------------------------------------------------------------------------
-- A whole run
-- ---------------------------------------------------------------------------

section
variable {pool : Pool} {files : List ChangedFile} {provider : Option Provider} {useModel : Bool}

/-- The session in which a provider is asked: the clock was read and the files
were analyzed. -/
def Session.analyzed (session : Session) (files : List ChangedFile) : Session :=
  session.ticked.note .info (analysisLine files)

theorem runOn_reviewFiles (session : Session) :
    (reviewFiles pool files provider useModel).runOn session = (do
      let written ← writeReview files (files.flatMap tableIssues) provider useModel
      let ended ← Session.readClock
      return .of files (files.flatMap tableIssues) (ended.sub session.now) written
      : Action Session Report).runOn (session.analyzed files) := by
  rw [← reviewFilesIn_plain]
  unfold reviewFilesIn
  simp only [writeReviewIn_plain]
  exact (runOn_bind_ok session.runOn_readClock).trans
    (runOn_bind_ok (runOn_analyzeFiles pool files session.ticked))

theorem runOn_reviewFilesIn_watched (calls : List (Provider × String)) (session : Session) :
    (reviewFilesIn .watched pool files provider useModel).runOn (calls, session) =
      (((reviewFiles pool files provider useModel).runOn session).1,
        (calls ++ callsFor files (files.flatMap tableIssues) provider useModel,
          ((reviewFiles pool files provider useModel).runOn session).2)) := by
  have reads : (Surroundings.watched.within Session.readClock).runOn (calls, session) =
      (.ok session.now, (calls, session.ticked)) := by
    rw [Surroundings.runOn_within_watched, session.runOn_readClock]
  have finds : (Surroundings.watched.within
      (analyzeFiles pool Analyzer.builtIn files)).runOn (calls, session.ticked) =
        (.ok (files.flatMap tableIssues), (calls, session.analyzed files)) := by
    rw [Surroundings.runOn_within_watched, runOn_analyzeFiles]
    rfl
  unfold reviewFilesIn
  rw [runOn_reviewFiles, runOn_bind_ok reads, runOn_bind_ok finds, runOn_bind, runOn_bind,
    runOn_writeReviewIn_watched]
  rcases (writeReview files (files.flatMap tableIssues) provider useModel).runOn
    (session.analyzed files) with ⟨failure | written, noted⟩
  · rfl
  · dsimp only
    rw [runOn_bind, runOn_bind, Surroundings.runOn_within_watched, noted.runOn_readClock]
    rfl

theorem result_reviewFiles (session : Session) :
    ∃ elapsed, ((reviewFiles pool files provider useModel).runOn session).1 =
      ((writeReview files (files.flatMap tableIssues) provider useModel).runOn
        (session.analyzed files)).1.map (Report.of files (files.flatMap tableIssues) elapsed) := by
  rw [runOn_reviewFiles, runOn_bind]
  rcases (writeReview files (files.flatMap tableIssues) provider useModel).runOn
    (session.analyzed files) with ⟨failure | written, noted⟩
  · exact ⟨.zero false, rfl⟩
  · dsimp only
    rw [runOn_bind, noted.runOn_readClock]
    exact ⟨_, rfl⟩

theorem result_reviewFiles_due (due : useModel = true ∧ files.flatMap tableIssues ≠ [])
    (session : Session) :
    ∃ elapsed, ((reviewFiles pool files provider useModel).runOn session).1 =
      (((providerOr provider).generateOnce
        (Prompt.build (files.flatMap tableIssues) files)).runOn (session.analyzed files)).1.map
          fun review => .of files (files.flatMap tableIssues) elapsed
            (some (providerOr provider, review)) := by
  obtain ⟨elapsed, result⟩ := result_reviewFiles session
  rw [result_writeReview_due due.1 due.2] at result
  refine ⟨elapsed, result.trans ?_⟩
  cases (((providerOr provider).generateOnce _).runOn _).1 <;> rfl

theorem result_reviewFiles_unused (unused : ¬(useModel = true ∧ files.flatMap tableIssues ≠ []))
    (session : Session) :
    ∃ elapsed, ((reviewFiles pool files provider useModel).runOn session).1 =
      .ok (.of files (files.flatMap tableIssues) elapsed none) := by
  obtain ⟨elapsed, result⟩ := result_reviewFiles session
  obtain ⟨line, writes, -⟩ := runOn_writeReview_unused unused (session.analyzed files)
  rw [writes] at result
  exact ⟨elapsed, result⟩

end

-- ---------------------------------------------------------------------------
-- Reports
-- ---------------------------------------------------------------------------

/-- Every issue is counted under one severity. -/
theorem countOf_add_countOf_add_countOf (issues : List Issue) :
    countOf .high issues + countOf .medium issues + countOf .low issues = issues.length := by
  induction issues with
  | nil => rfl
  | cons issue rest ih =>
    unfold countOf at ih ⊢
    simp only [List.countP_cons, List.length_cons]
    cases issue.severity <;> simp <;> omega

/-- A summary counts the files with contents and the issues. -/
structure IsCountOf (files : List ChangedFile) (issues : List Issue) (summary : Summary) :
    Prop where
  filesAnalyzed : summary.filesAnalyzed = (files.filter (·.contents.any (!·.isEmpty))).length
  total : summary.totalIssues = issues.length
  severities : summary.totalIssues =
    summary.highSeverity + summary.mediumSeverity + summary.lowSeverity
  high : summary.highSeverity = (issues.filter (·.severity == .high)).length
  medium : summary.mediumSeverity = (issues.filter (·.severity == .medium)).length
  low : summary.lowSeverity = (issues.filter (·.severity == .low)).length

theorem isCountOf_of (files : List ChangedFile) (issues : List Issue) (elapsed : Binary64)
    (provider : Option Provider) :
    IsCountOf files issues (.of files issues elapsed provider) where
  filesAnalyzed := by
    simp only [Summary.of, List.countP_eq_length_filter, ChangedFile.text?, Option.isSome_filter]
  total := rfl
  severities := by
    rw [Summary.of, ← countOf_add_countOf_add_countOf]
    push_cast
    rfl
  high := by simp only [Summary.of, countOf, List.countP_eq_length_filter]
  medium := by simp only [Summary.of, countOf, List.countP_eq_length_filter]
  low := by simp only [Summary.of, countOf, List.countP_eq_length_filter]

/-- What a report says, where these calls were made of a provider that answers so
when it is called. -/
structure IsReportOn (files : List ChangedFile) (found : List Issue) (provider : Provider)
    (useModel : Bool) (calls : List (Provider × String)) (answer : Except Failure Review)
    (report : Report) : Prop where
  issues : report.issues = found
  counts : IsCountOf files found report.summary
  used : [useModel = true ∧ found ≠ [], report.review.isSome = true,
    report.summary.llmUsed = true, calls = [(provider, Prompt.build found files)],
    calls.length = 1].TFAE
  written : useModel = true ∧ found ≠ [] → ∃ review, answer = .ok review ∧
    report.review = some review ∧ report.summary.provider = some provider.name ∧
    report.summary.modelName = provider.model ∧
    report.metadata.lookup "llm_provider" = some (.str provider.name)
  unwritten : ¬(useModel = true ∧ found ≠ []) → calls = [] ∧ report.review = none ∧
    report.summary.provider = none ∧ report.summary.modelName = none ∧
    report.metadata.lookup "llm_provider" = some .null

section
variable {files : List ChangedFile} {issues : List Issue} {provider : Option Provider}
  {useModel : Bool}

theorem isReportOn_of_due {review : Review} (due : useModel = true ∧ issues ≠ []) :
    IsReportOn files issues (providerOr provider) useModel
      (callsFor files issues provider useModel) (.ok review)
      (.of files issues elapsed (some (providerOr provider, review))) where
  issues := rfl
  counts := isCountOf_of ..
  used := by
    rw [callsFor_due due.1 due.2]
    refine List.tfae_of_forall True _ ?_
    simp only [List.forall_mem_cons, iff_true]
    exact ⟨due, rfl, rfl, trivial, rfl, nofun⟩
  written _ := ⟨review, rfl, rfl, rfl, rfl, rfl⟩
  unwritten unused := absurd due unused

theorem isReportOn_of_unused (answer : Except Failure Review)
    (unused : ¬(useModel = true ∧ issues ≠ [])) :
    IsReportOn files issues (providerOr provider) useModel
      (callsFor files issues provider useModel) answer (.of files issues elapsed none) where
  issues := rfl
  counts := isCountOf_of ..
  used := by
    rw [callsFor_unused unused]
    refine List.tfae_of_forall False _ ?_
    simp only [List.forall_mem_cons, iff_false]
    exact ⟨unused, nofun, nofun, nofun, nofun, nofun⟩
  written due := absurd due unused
  unwritten _ := ⟨callsFor_unused unused, rfl, rfl, rfl, rfl⟩

end

/-- A run that answers a report says in all of its parts the same of one call of
the provider, or of none, and a run fails exactly as the provider does when it is
called. -/
theorem isReportOn_of_reviewFiles (pool : Pool) (files : List ChangedFile)
    (provider : Option Provider) (useModel : Bool) (session : Session) :
    let found := files.flatMap tableIssues
    let used := providerOr provider
    let answer := ((used.generateOnce (Prompt.build found files)).runOn (session.analyzed files)).1
    let run := (reviewFiles pool files provider useModel).runOn session
    reviewFilesIn .plain pool files provider useModel =
        reviewFiles pool files provider useModel ∧
      ∃ calls,
        (∀ earlier, (reviewFilesIn .watched pool files provider useModel).runOn (earlier, session) =
          (run.1, (earlier ++ calls, run.2))) ∧
        (∀ report, run.1 = .ok report →
          (∀ others later,
            ((analyzeFiles others Analyzer.builtIn files).runOn later).1 = .ok report.issues) ∧
          IsReportOn files found used useModel calls answer report) ∧
        ∀ failure, run.1 = .error failure ↔
          (useModel = true ∧ found ≠ []) ∧ answer = .error failure := by
  intro found used answer run
  refine ⟨reviewFilesIn_plain pool files provider useModel,
    callsFor files found provider useModel,
    fun earlier => runOn_reviewFilesIn_watched earlier session, ?_⟩
  have finds (others : Pool) (later : Session) :
      ((analyzeFiles others Analyzer.builtIn files).runOn later).1 = .ok found := by
    rw [runOn_analyzeFiles]
  by_cases due : useModel = true ∧ found ≠ []
  · obtain ⟨elapsed, result⟩ : ∃ elapsed, run.1 = answer.map _ :=
      result_reviewFiles_due due session
    -- From here on only this matters of the run, and of the answer that there is one.
    clear_value run answer
    rw [result]
    cases answer with
    | error failure =>
      rw [Except.map]
      refine ⟨fun report same => (nomatch same), fun other => ?_⟩
      simp only [Except.error.injEq, and_iff_right due]
    | ok review =>
      rw [Except.map]
      refine ⟨fun report same => ?_, fun failure => ⟨nofun, fun fails => nomatch fails.2⟩⟩
      obtain rfl := Except.ok.inj same
      exact ⟨finds, isReportOn_of_due due⟩
  · obtain ⟨elapsed, result⟩ : ∃ elapsed, run.1 = _ := result_reviewFiles_unused due session
    clear_value run answer
    rw [result]
    refine ⟨fun report same => ?_, fun failure => ⟨nofun, fun fails => absurd fails.1 due⟩⟩
    obtain rfl := Except.ok.inj same
    exact ⟨finds, isReportOn_of_unused answer due⟩

/-- A page with an issue, and a provider that writes a review or fails. -/
theorem isReportOn_of_reviewFiles_page :
    let page : ChangedFile := ⟨"page.html", .added, none, some "<img src=a>"⟩
    let review : Review := ⟨"Describe the picture.", .ofNat 1, [.accessibility]⟩
    let run (answer : Except Failure Review) :=
      (reviewFiles swappedPool [page] (some (.custom ⟨"stub", none, fun _ => answer⟩)) true).runOn
        (.ofReplies [])
    (∃ report, (run (.ok review)).1 = .ok report ∧ report.review = some review ∧
        report.summary.provider = some "stub") ∧
      (run (.error (.runtime "down"))).1 = .error (.runtime "down") := by
  intro page review run
  have found : [page].flatMap tableIssues ≠ [] := by decide +kernel
  constructor
  · obtain ⟨-, calls, -, reports, fails⟩ := isReportOn_of_reviewFiles swappedPool [page]
      (some (.custom ⟨"stub", none, fun _ => .ok review⟩)) true (.ofReplies [])
    cases result : (run (.ok review)).1 with
    | error failure => exact nomatch ((fails failure).mp result).2
    | ok report =>
      obtain ⟨written, answers, same, named, -⟩ := (reports report result).2.written ⟨rfl, found⟩
      cases answers
      exact ⟨report, rfl, same, named⟩
  · obtain ⟨-, calls, -, -, fails⟩ := isReportOn_of_reviewFiles swappedPool [page]
      (some (.custom ⟨"stub", none, fun _ => .error (.runtime "down")⟩)) true (.ofReplies [])
    exact (fails _).mpr ⟨⟨rfl, found⟩, rfl⟩

end PatchReview
