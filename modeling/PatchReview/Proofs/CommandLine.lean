import PatchReview.CommandLine.Run
import PatchReview.Proofs.Provider.Choice
import PatchReview.Proofs.Reviewing

/-!
# Runs of the command line

A run that has loaded its files reviews them and delivers the report
(`reviewAndDeliver_eq`). It ends as its processing does: a failure that is
reported ends it with the exit code 1 and a last line in the log
(`Begun.run_of_reported`), and any other failure ends the program. So ends a run
that asks a remote provider about its files and gets no review
(`Asking.run_error`).
-/

namespace PatchReview.CommandLine

open PatchReview.Action (runOn_bind_ok runOn_bind_error)

-- ---------------------------------------------------------------------------
-- Local files
-- ---------------------------------------------------------------------------

structure IsPath (path : String) : Prop where
  encodable : pathFault? path.toList = none
  noNull : path.toList.contains '\x00' = false

theorem runOn_checkPath (isPath : IsPath path) (session : Session) :
    (checkPath path).runOn session = (.ok (), session) := by
  simp only [checkPath, isPath.encodable, isPath.noNull]
  rfl

theorem runOn_readText (path : String) (octets : List UInt8) (text : List Char)
    (session : Session) (named : pathFault? path.toList = none)
    (noNull : path.toList.contains '\x00' = false) (read : session.disk.read path = .ok octets)
    (decodes : Utf8.decode octets = .ok text) :
    (readText path).runOn session = (.ok (String.ofList (unifyLineEnds text)), session) := by
  unfold readText
  rw [runOn_bind_ok (runOn_checkPath ⟨named, noNull⟩ session), runOn_bind_ok (Action.runOn_get _),
    runOn_bind_ok (by rw [Action.runOn_ofExcept, read]; rfl), decodes]
  rfl

theorem runOn_localFile
    (reads : (readText (Path.ofString path).text).runOn session = (.ok text, session)) :
    (localFile path).runOn session = (.ok ⟨path, .modified, none, some text⟩, session) := by
  rw [localFile, runOn_bind_ok reads]
  rfl

-- ---------------------------------------------------------------------------
-- Reviewing
-- ---------------------------------------------------------------------------

def providerFor (options : Options) (settings : Settings) : Provider :=
  .chosen (some settings.provider) ((nonEmpty options.apiKey).or settings.apiKey)
    ((nonEmpty options.baseUrl).or settings.baseUrl) ((nonEmpty options.model).or settings.model)

theorem exists_runOn_chooseProvider (h : options.noLlm = false) (settings : Settings)
    (session : Session) :
    ∃ after, (chooseProvider options settings).runOn session =
        (.ok (some (providerFor options settings)), after) ∧
      after.modelReplies = session.modelReplies := by
  obtain ⟨after, chooses, same⟩ := Provider.exists_runOn_choose (some settings.provider)
    ((nonEmpty options.apiKey).or settings.apiKey) ((nonEmpty options.baseUrl).or settings.baseUrl)
    ((nonEmpty options.model).or settings.model) session
  unfold chooseProvider
  rw [if_neg (by simp [h]), runOn_bind_ok chooses]
  exact ⟨_, rfl, same⟩

def review (options : Options) (settings : Settings) (files : List ChangedFile) :
    Action Session Report := do
  Session.info s!"Found {files.length} changed file(s)"
  let provider ← chooseProvider options settings
  reviewFiles (pool options settings) files provider (!options.noLlm)

def deliver (options : Options) (pullRequest : Option PullRequest) (report : Report) :
    Action Session Unit := do
  printLines (ReportText.lines report)
  match nonEmpty options.output with
  | some path => saveReport report path
  | none => pure ()
  if options.post then postReview pullRequest report

theorem reviewAndDeliver_eq (options : Options) (settings : Settings) (files : List ChangedFile)
    (pullRequest : Option PullRequest) :
    reviewAndDeliver options settings files pullRequest =
      (review options settings files >>= deliver options pullRequest) := by
  simp only [reviewAndDeliver, review, bind_assoc]
  rfl

-- ---------------------------------------------------------------------------
-- Runs
-- ---------------------------------------------------------------------------

theorem reported_of_isReviewing {failure : Failure} (h : failure.isReviewing = true) :
    reported failure = some s!"Review failed: {failure.message}" := by
  cases failure <;> first | rfl | cases h

def conclude : Except Failure Ending → Action Session Ending
  | .ok ending => return ending
  | .error failure =>
    match reported failure with
    | some text => do
      Session.logError text
      return .exit 1
    | none => throw failure

def outcomeOf (least : Nat) (result : Except Failure Ending) (after : Session) : Outcome :=
  match result with
  | .ok (.exit code) => ⟨.ok code, renderLog least after.log, after⟩
  | .ok (.usage error) => usageOutcome error after
  | .error failure => ⟨.error failure, renderLog least after.log, after⟩

/-- The start of a run: options that say what to do, settings, and a log level. -/
structure Begun (arguments : List String) (session : Session) (options : Options)
    (settings : Settings) (least : Nat) : Prop where
  parsed : Options.parse arguments = .ok options
  noHelp : options.help = false
  numbered : ((nonEmpty options.repo).isSome && (options.pr.getD 0) == 0) = false
  configured : Settings.ofEnvironment session.environment options.provider = .ok settings
  levelled : threshold settings.logLevel = .ok least

namespace Begun

variable {options : Options} {settings : Settings} {session after : Session}

variable (begun : Begun arguments session options settings least)

include begun

theorem run_of_perform (performs : (perform options settings).runOn session = (result, after)) :
    run arguments session = outcomeOf least result after := by
  rw [run, begun.parsed]
  dsimp only
  rw [begun.noHelp, if_neg (by decide), runWith, begun.configured]
  simp only [begun.levelled, performs]
  rfl

theorem runOn_perform : (perform options settings).runOn session =
    (conclude ((process options settings).runOn session).1).runOn
      ((process options settings).runOn session).2 := by
  rw [perform, if_neg (by rw [begun.numbered]; decide), runOn_bind_ok (Action.runOn_outcome _ _)]
  rfl

theorem run_of_exit (processes : (process options settings).runOn session =
      (.ok (.exit code), after)) :
    run arguments session = ⟨.ok code, renderLog least after.log, after⟩ := by
  have performs : (perform options settings).runOn session = (.ok (.exit code), after) := by
    rw [begun.runOn_perform, processes]
    rfl
  exact begun.run_of_perform performs

/-- A failure that is reported ends a run with the exit code 1 and is the last
line in the log. -/
theorem run_of_reported {failure : Failure} (processes : (process options settings).runOn session =
      (.error failure, after)) (reports : reported failure = some text) :
    run arguments session =
      ⟨.ok 1, renderLog least (after.note .error text).log, after.note .error text⟩ := by
  have performs : (perform options settings).runOn session =
      (.ok (.exit 1), after.note .error text) := by
    rw [begun.runOn_perform, processes, conclude, reports]
    exact runOn_bind_ok (Session.runOn_logError ..)
  exact begun.run_of_perform performs

theorem run_of_unreported {failure : Failure}
    (processes : (process options settings).runOn session = (.error failure, after))
    (silent : reported failure = none) :
    run arguments session = ⟨.error failure, renderLog least after.log, after⟩ := by
  have performs : (perform options settings).runOn session = (.error failure, after) := by
    rw [begun.runOn_perform, processes, conclude, silent]
    rfl
  exact begun.run_of_perform performs

end Begun

-- ---------------------------------------------------------------------------
-- Runs that ask a remote provider
-- ---------------------------------------------------------------------------

/-- A run that loads files with findings and asks a remote provider about them. -/
structure Asking (arguments : List String) (session : Session) (provider : Remote) where
  options : Options
  settings : Settings
  /-- The least importance that the log shows. -/
  least : Nat
  files : List ChangedFile
  pullRequest : Option PullRequest
  /-- The session when the files are loaded. -/
  loaded : Session
  parsed : Options.parse arguments = .ok options
  noHelp : options.help = false
  configured : Settings.ofEnvironment session.environment options.provider = .ok settings
  levelled : threshold settings.logLevel = .ok least
  numbered : ((nonEmpty options.repo).isSome && (options.pr.getD 0) == 0) = false
  loads : (loadInput options settings).runOn session = (.ok (.files files pullRequest), loaded)
  usesModel : options.noLlm = false
  uses : providerFor options settings = .remote provider
  found : findings Analyzer.builtIn files ≠ []

namespace Asking

variable {provider : Remote} (asking : Asking arguments session provider) {failure : Failure}

theorem review_error (ready : provider.IsReady)
    (failed : (Call.forFiles provider asking.files asking.loaded.modelReplies).result provider =
      .error failure) :
    ∃ after, (review asking.options asking.settings asking.files).runOn asking.loaded =
      (.error failure, after) := by
  obtain ⟨chosen, chooses, same⟩ := exists_runOn_chooseProvider asking.usesModel asking.settings
    (asking.loaded.note .info s!"Found {asking.files.length} changed file(s)")
  have same : chosen.modelReplies = asking.loaded.modelReplies := same
  rw [← same] at failed
  obtain ⟨after, reviews⟩ := runOn_reviewFiles_error ready (pool asking.options asking.settings)
    asking.found failed
  refine ⟨after, ?_⟩
  unfold review
  rw [runOn_bind_ok (Session.runOn_info ..), runOn_bind_ok chooses, asking.uses, asking.usesModel]
  exact reviews

theorem process_error (ready : provider.IsReady)
    (failed : (Call.forFiles provider asking.files asking.loaded.modelReplies).result provider =
      .error failure) :
    ∃ after, (process asking.options asking.settings).runOn session = (.error failure, after) := by
  obtain ⟨after, reviews⟩ := asking.review_error ready failed
  refine ⟨after, ?_⟩
  unfold process
  rw [runOn_bind_ok asking.loads]
  refine runOn_bind_error ?_
  rw [reviewAndDeliver_eq]
  exact runOn_bind_error reviews

theorem begun : Begun arguments session asking.options asking.settings asking.least :=
  ⟨asking.parsed, asking.noHelp, asking.numbered, asking.configured, asking.levelled⟩

theorem run_error (ready : provider.IsReady)
    (failed : (Call.forFiles provider asking.files asking.loaded.modelReplies).result provider =
      .error failure) :
    match reported failure with
    | some text => (run arguments session).result = .ok 1 ∧
        (run arguments session).session.log.getLast? = some ⟨.error, text⟩
    | none => (run arguments session).result = .error failure := by
  obtain ⟨after, processes⟩ := asking.process_error ready failed
  cases reports : reported failure with
  | some text =>
    rw [asking.begun.run_of_reported processes reports]
    exact ⟨rfl, by simp [Session.note]⟩
  | none => rw [asking.begun.run_of_unreported processes reports]

end Asking

end PatchReview.CommandLine
