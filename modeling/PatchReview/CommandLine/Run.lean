import PatchReview.CommandLine.Input
import PatchReview.Json.Writer
import PatchReview.ReportText
import PatchReview.Reviewing

/-!
# Running the command line

A run loads the files, from the disk or from a pull request, reviews them,
prints the report, saves it and posts the review, in this order. A failure of
the input or of the review ends the run with a logged error; other failures
end the program. The log shows lines from the configured level on.
-/

namespace PatchReview.CommandLine

/-! ## Reviewing and delivering -/

def chooseProvider (options : Options) (settings : Settings) : Action Session (Option Provider) :=
  if options.noLlm then return none
  else do
    let provider ← Provider.choose (some settings.provider)
      ((nonEmpty options.apiKey).or settings.apiKey) ((nonEmpty options.baseUrl).or settings.baseUrl)
      ((nonEmpty options.model).or settings.model)
    Session.info s!"Starting AI PR review with provider: {provider.name}"
    return some provider

def printLines : List String → Action Session Unit
  | [] => return ()
  | line :: rest => do
    Session.print line
    printLines rest

/-- Makes a directory on the disk. What was made before a failure stays. -/
def makeDirectories (path : Path) : Action Session Unit := do
  checkPath path.text
  let session ← get
  let (disk, fault) := session.disk.makeDirectories path
  set { session with disk := disk }
  match fault with
  | none => return ()
  | some fault => throw (.ofMakeFault fault)

def writeFile (path : String) (octets : List UInt8) : Action Session Unit := do
  checkPath path
  let session ← get
  match session.disk.write path octets with
  | .ok disk => set { session with disk := disk }
  | .error fault => throw (.file path fault)

def saveReport (report : Report) (path : String) : Action Session Unit := do
  makeDirectories (Path.ofString path).parent
  writeFile path (Utf8.encode report.toJson.indented.toList)
  Session.print s!"\n✓ Review output saved to: {path}"

def postReview (pullRequest : Option PullRequest) (report : Report) : Action Session Unit :=
  match pullRequest, report.review with
  | none, _ => Session.warn "--post needs a GitHub pull request; nothing posted"
  | some _, none => Session.info "No review generated; nothing posted"
  | some target, some review => do
    let url ← target.host.postComment target.repo target.number review.comment
    Session.info s!"Posted review comment successfully {url.display}"

/-- The workers that were asked for; none and zero leave it to the settings. -/
def pool (options : Options) (settings : Settings) : Pool :=
  .inOrder ((options.workers.filter (· != 0)).getD settings.maxWorkers)

def reviewAndDeliver (options : Options) (settings : Settings) (files : List ChangedFile)
    (pullRequest : Option PullRequest) : Action Session Unit := do
  Session.info s!"Found {files.length} changed file(s)"
  let provider ← chooseProvider options settings
  let report ← reviewFiles (pool options settings) files provider (!options.noLlm)
  printLines (ReportText.lines report)
  match nonEmpty options.output with
  | some path => saveReport report path
  | none => pure ()
  if options.post then postReview pullRequest report

def process (options : Options) (settings : Settings) : Action Session Ending := do
  match ← loadInput options settings with
  | .none ending => return ending
  | .files files pullRequest =>
    reviewAndDeliver options settings files pullRequest
    return .exit 0

/-- The log line for a failure that a run reports; none for one that ends the
program. -/
def reported : Failure → Option String
  | .file path .notFound => some s!"File not found: {path}"
  | .undecodable fault => some s!"Cannot read input: {fault.message}"
  | failure =>
    if failure.isSystem then some s!"Cannot read input: {failure.message}"
    else if failure.isReviewing then some s!"Review failed: {failure.message}"
    else none

def perform (options : Options) (settings : Settings) : Action Session Ending := do
  if (nonEmpty options.repo).isSome && (options.pr.getD 0) == 0 then
    return .usage .repoWithoutNumber
  match ← Action.outcome (process options settings) with
  | .ok ending => return ending
  | .error failure =>
    match reported failure with
    | some text =>
      Session.logError text
      return .exit 1
    | none => throw failure

/-! ## The log -/

/-- The least importance that a level name lets through. Two other names of
that kind stand for texts and are refused; unknown names mean the default. -/
def threshold (level : String) : Except Failure Nat :=
  match level with
  | "NOTSET" => .ok 0
  | "DEBUG" => .ok LogLevel.debug.rank
  | "WARNING" | "WARN" => .ok LogLevel.warning.rank
  | "ERROR" => .ok LogLevel.error.rank
  | "CRITICAL" | "FATAL" => .ok 50
  | "BASIC_FORMAT" => .error (.value "Unknown level: '%(levelname)s:%(name)s:%(message)s'")
  | "_STYLES" => .error .wrongKind
  | _ => .ok LogLevel.info.rank

def renderLog (least : Nat) (log : List LogLine) : String :=
  String.join ((log.filter fun line => least ≤ line.level.rank).map fun line => line.render ++ "\n")

structure Outcome where
  result : Except Failure Nat
  errorText : String
  session : Session

def usageText (error : UsageError) : String := s!"pr-reviewer: error: {error.message}\n"

def usageOutcome (error : UsageError) (session : Session) : Outcome :=
  ⟨.ok 2, usageText error, session⟩

def runWith (options : Options) (session : Session) : Outcome :=
  match Settings.ofEnvironment session.environment options.provider with
  | .error failure =>
    let after := session.note .error s!"Invalid configuration: {failure.message}"
    ⟨.ok 1, renderLog LogLevel.info.rank after.log, after⟩
  | .ok settings =>
    match threshold settings.logLevel with
    | .error failure => ⟨.error failure, "", session⟩
    | .ok least =>
      let (result, after) := (perform options settings).runOn session
      match result with
      | .ok (.exit code) => ⟨.ok code, renderLog least after.log, after⟩
      | .ok (.usage error) => usageOutcome error after
      | .error failure => ⟨.error failure, renderLog least after.log, after⟩

def run (arguments : List String) (session : Session) : Outcome :=
  match Options.parse arguments with
  | .error error => usageOutcome error session
  | .ok options =>
    if options.help then
      ⟨.ok 0, "", { session with printed := session.printed ++ helpText ++ "\n" }⟩
    else runWith options session

end PatchReview.CommandLine
