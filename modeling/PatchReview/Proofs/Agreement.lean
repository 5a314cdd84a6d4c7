import PatchReview.Proofs.CommandLine.Arguments
import PatchReview.Proofs.CommandLine.Local
import PatchReview.Proofs.Server.Answer
import PatchReview.Proofs.Server.Reach

/-!
# The command line and the server agree

Some texts, a provider and a model can be given to the server in a request, or
to the command line as files and options. Both come to the same: to the same
report, which one answers with and the other saves, or to the same failure of
the review; and both ask a model in the same way (`run_agrees`). Two things are
not the server's: a log that leaves out errors says nothing of a failure, and
no answer shows a time that is not finite.
-/

namespace PatchReview

open CommandLine (Holds IsPlain Options Setting Writable)
open PatchReview.Action (runOn_bind_ok runOn_bind_error)

/-- Texts at paths that are to be reviewed, and by whom. -/
structure Work where
  first : String × String
  others : List (String × String)
  provider : Option String
  model : Option String

namespace Work

variable (work : Work)

def files : List (String × String) := work.first :: work.others

def changedFiles : List ChangedFile :=
  work.files.map fun file => ⟨file.1, .modified, none, some file.2⟩

-- ---------------------------------------------------------------------------
-- For the server
-- ---------------------------------------------------------------------------

def order : Server.ReviewOrder := ⟨work.changedFiles, work.provider, work.model⟩

def fileJson (file : String × String) : Json :=
  .obj [("filename", .str file.1), ("status", .str "modified"), ("contents", .str file.2)]

def body : Json :=
  .obj ([("files", .arr (work.files.map fileJson))] ++
    work.provider.toList.map (fun name => ("provider", .str name)) ++
    work.model.toList.map fun name => ("model", .str name))

theorem checkFrom_fileJson (file : String × String) :
    ChangedFile.checkFrom .request (fileJson file) =
      .valid ⟨file.1, .modified, none, some file.2⟩ := rfl

theorem itemsFrom_fileJson (files : List (String × String)) (index : Nat) :
    Schema.Check.itemsFrom (ChangedFile.checkFrom .request) index (files.map fileJson) =
      .valid (files.map fun file => ⟨file.1, .modified, none, some file.2⟩) := by
  induction files generalizing index with
  | nil => rfl
  | cons file rest ih =>
    rw [List.map_cons, Schema.Check.itemsFrom, checkFrom_fileJson, ih]
    rfl

theorem checkOrder_body : Server.checkOrder work.body = .valid work.order := by
  have files := itemsFrom_fileJson work.files 0
  obtain ⟨first, others, _ | provider, _ | model⟩ := work <;>
    simp [Server.checkOrder, Server.checkFiles, Schema.Check.model, Schema.Check.items, body,
      Schema.required, Schema.optional, List.lookup_cons, files] <;> rfl

-- ---------------------------------------------------------------------------
-- For the command line
-- ---------------------------------------------------------------------------

def runSettings (output : String) : List Setting :=
  [.files work.first.1 (work.others.map (·.1))] ++ work.provider.toList.map .provider ++
    work.model.toList.map .model ++ [.output output]

/-- Arguments that say the settings in any order. -/
def Asks (output : String) (arguments : List String) : Prop :=
  ∃ settings, (work.runSettings output).Perm settings ∧ arguments = settings.flatMap Setting.words

def options (output : String) : Options where
  files := work.files.map (·.1)
  provider := work.provider
  model := work.model
  output := some output

/-- Work that can be done in a session: no value looks like an option, the
files hold the texts, and the report can be saved. -/
structure Doable (session : Session) (output : String) : Prop where
  readable : ∀ setting ∈ work.runSettings output, setting.IsReadable
  holds : ∀ file ∈ work.files, Holds session.disk file.1 file.2
  writable : Writable session.disk output

variable {work} {arguments : List String} {output : String} {session : Session}

theorem parse_of_asks (asks : work.Asks output arguments)
    (readable : ∀ setting ∈ work.runSettings output, setting.IsReadable) :
    Options.parse arguments = .ok (work.options output) := by
  obtain ⟨settings, same, rfl⟩ := asks
  have once : ((work.runSettings output).map Setting.flag).Nodup := by
    obtain ⟨first, others, _ | provider, _ | model⟩ := work <;>
      simp [runSettings, Setting.flag]
  rw [CommandLine.parse_of_perm same once readable]
  obtain ⟨first, others, _ | provider, _ | model⟩ := work <;> rfl

theorem loads_of_holds (holds : ∀ file ∈ work.files, Holds session.disk file.1 file.2)
    (settings : Settings) :
    (CommandLine.loadInput (work.options output) settings).runOn session =
      (.ok (.files work.changedFiles none), session) := by
  unfold CommandLine.loadInput
  rw [if_pos (by rfl)]
  exact runOn_bind_ok (CommandLine.runOn_localFiles work.files holds)

-- ---------------------------------------------------------------------------
-- One review
-- ---------------------------------------------------------------------------

/-- Both ways in come to the same report or failure and show the same; neither
touches the disk. -/
theorem exists_reviewed (output : String)
    (configured : Settings.ofEnvironment session.environment work.provider = .ok settings) :
    ∃ (result : Except Failure Report) (events : List Event),
      (∀ report, result = .ok report →
        report.summary.reviewSeconds = session.elapsed.roundHundredths) ∧
      (∃ served : Session, served.trace = session.trace ++ events ∧
        (Server.review work.order).runOn session = (Server.answerOf result).runOn served) ∧
      ∃ reviewed : Session, reviewed.trace = session.trace ++ events ∧
        reviewed.disk = session.disk ∧
        (CommandLine.review (work.options output) settings work.changedFiles).runOn session =
          (result, reviewed) := by
  let found := work.changedFiles.flatMap tableIssues
  obtain ⟨served, serves⟩ := Server.exists_runOn_review work.order (List.cons_ne_nil _ _) configured
  obtain ⟨noted, reviews⟩ := CommandLine.exists_runOn_review
    (show (work.options output).noLlm = false from rfl) settings work.changedFiles session
  -- What the model is asked depends on neither the pool nor the log.
  obtain ⟨written, n, events, lines, runs⟩ := exists_runOn_reviewFiles work.changedFiles
    (some (Server.providerFor work.order settings)) true session.modelReplies
  obtain ⟨answered, onAnswered, answers⟩ :=
    runs (.inOrder settings.maxWorkers) (session.advance 0 [] served) rfl
  obtain ⟨reviewed, onReviewed, comes⟩ :=
    runs (CommandLine.pool (work.options output) settings) (session.advance 0 [] noted) rfl
  rw [Session.elapsed_advance] at answers comes
  refine ⟨written.map (Report.of work.changedFiles found session.elapsed), events,
    fun report same => ?_, ⟨answered, ?_, ?_⟩, reviewed, ?_, onReviewed.disk_eq, reviews.trans comes⟩
  · cases written with
    | error failure => cases same
    | ok written =>
      cases same
      rfl
  · rw [onAnswered.trace_eq, Session.advance, List.append_nil]
  · rw [serves]
    exact congrArg (fun run => (Server.answerOf run.1).runOn run.2) answers
  · rw [onReviewed.trace_eq, Session.advance, List.append_nil]

theorem logLevel_of_ofEnvironment (configured : Settings.ofEnvironment environment wanted = .ok settings) :
    settings.logLevel = Text.upper ((environment.value? "LOG_LEVEL").getD "INFO") := by
  simp only [Settings.ofEnvironment] at configured
  split at configured
  · cases configured
  · cases configured
    rfl

def levelIn (environment : Environment) : Except Failure Nat :=
  CommandLine.threshold (Text.upper ((environment.value? "LOG_LEVEL").getD "INFO"))

theorem begun (asks : work.Asks output arguments) (doable : work.Doable session output)
    (levelled : levelIn session.environment = .ok least)
    (configured : Settings.ofEnvironment session.environment work.provider = .ok settings) :
    CommandLine.Begun arguments session (work.options output) settings least where
  parsed := parse_of_asks asks doable.readable
  noHelp := rfl
  numbered := rfl
  configured := configured
  levelled := by rw [logLevel_of_ofEnvironment configured]; exact levelled

-- ---------------------------------------------------------------------------
-- Both ways
-- ---------------------------------------------------------------------------

theorem run_of_report (asks : work.Asks output arguments) (doable : work.Doable session output)
    (levelled : levelIn session.environment = .ok least) {body : Json}
    (answers : (Server.review work.order).runOn session = (.ok (.ok body), answered)) :
    ∃ saved, body = saved.standard ∧
      (body = saved ↔ session.elapsed.roundHundredths.isFinite = true) ∧
      let ran := CommandLine.run arguments session
      ran.result = .ok 0 ∧ ran.session.disk.read output = .ok (Utf8.encode saved.indented.toList) ∧
      ran.session.trace = answered.trace := by
  obtain ⟨-, settings, configured⟩ := Server.exists_settings_of_review answers
    (show 200 ≠ 400 by decide)
  obtain ⟨result, events, timed, ⟨served, servedTrace, serves⟩, reviewed, shown, disk, reviews⟩ :=
    exists_reviewed output configured
  obtain ⟨report, rfl, rfl, rfl⟩ := Server.answerOf_eq_ok (serves.symm.trans answers)
  have writable := doable.writable
  rw [← disk] at writable
  obtain ⟨delivered, delivers, read, kept⟩ := CommandLine.exists_runOn_deliver
    (show (work.options output).post = false from rfl) rfl writable none report
  refine ⟨report.toJson, rfl, ?_, ?_⟩
  · rw [← timed report rfl]
    exact Report.standard_toJson_eq_self_iff (CommandLine.inSchema_of_review reviews)
  · have processes : (CommandLine.process (work.options output) settings).runOn session =
        (.ok (.exit 0), delivered) := by
      rw [CommandLine.runOn_process (loads_of_holds doable.holds settings), runOn_bind_ok reviews,
        runOn_bind_ok delivers]
      rfl
    rw [(begun asks doable levelled configured).run_of_exit processes]
    exact ⟨rfl, read, kept.trans (shown.trans servedTrace.symm)⟩

theorem run_of_problem (asks : work.Asks output arguments) (doable : work.Doable session output)
    (levelled : levelIn session.environment = .ok least)
    (answers : (Server.review work.order).runOn session = (.ok (.problem 502 detail), answered)) :
    let ran := CommandLine.run arguments session
    ran.result = .ok 1 ∧ ran.session.log.getLast? = some ⟨.error, "Review failed: " ++ detail⟩ ∧
      (least ≤ LogLevel.error.rank → ∃ before,
        ran.errorText = before ++ "ERROR: Review failed: " ++ detail ++ "\n") ∧
      ran.session.disk = session.disk ∧ ran.session.trace = answered.trace := by
  obtain ⟨-, settings, configured⟩ := Server.exists_settings_of_review answers
    (show 502 ≠ 400 by decide)
  obtain ⟨result, events, -, ⟨served, servedTrace, serves⟩, reviewed, shown, disk, reviews⟩ :=
    exists_reviewed output configured
  obtain ⟨failure, rfl, reviewing, rfl, rfl⟩ :=
    Server.answerOf_eq_problem (serves.symm.trans answers)
  have processes : (CommandLine.process (work.options output) settings).runOn session =
      (.error failure, reviewed) := by
    rw [CommandLine.runOn_process (loads_of_holds doable.holds settings), runOn_bind_error reviews]
  have ran := (begun asks doable levelled configured).run_of_reported processes
    (CommandLine.reported_of_isReviewing reviewing)
  rw [ran]
  refine ⟨rfl, List.getLast?_concat, fun errors => ?_, disk, shown.trans servedTrace.symm⟩
  obtain ⟨before, rendered⟩ := CommandLine.exists_renderLog_append reviewed.log
    ⟨.error, s!"Review failed: {failure.message}"⟩ errors
  refine ⟨before, rendered.trans ?_⟩
  rw [show "ERROR: Review failed: " = "ERROR" ++ (": " ++ "Review failed: ") by decide]
  simp only [LogLine.render, String.append_assoc]
  rfl

/-- The server and the command line agree on any work that can be done. The
body of a request for it is in order. If the server answers with a report, the
run ends well and saves that report: what is saved is the body of the answer,
if the time that it took is finite, and only then. If the server answers with a
failure of the review, the run fails, saves nothing, and its log ends with that
failure, if it shows errors. Both ask a model in the same way. -/
theorem run_agrees (orders : Server.Orders request work.order) (asks : work.Asks output arguments)
    (doable : work.Doable session output) (levelled : levelIn session.environment = .ok least) :
    let ran := CommandLine.run arguments session
    Server.checkOrder work.body = .valid work.order ∧
    (∀ body answered,
      (Server.handle request).runOn session = (.ok (.ok body), answered) →
        ran.result = .ok 0 ∧ ran.session.trace = answered.trace ∧
        ∃ saved, ran.session.disk.read output = .ok (Utf8.encode saved.indented.toList) ∧
          body = saved.standard ∧
          (body = saved ↔ session.elapsed.roundHundredths.isFinite = true)) ∧
    ∀ detail answered,
      (Server.handle request).runOn session = (.ok (.problem 502 detail), answered) →
        ran.result = .ok 1 ∧ ran.session.trace = answered.trace ∧
        ran.session.disk = session.disk ∧
        ran.session.log.getLast? = some ⟨.error, "Review failed: " ++ detail⟩ ∧
        (least ≤ LogLevel.error.rank → ∃ before,
          ran.errorText = before ++ "ERROR: Review failed: " ++ detail ++ "\n") := by
  intro ran
  rw [Server.runOn_handle_of_orders orders]
  refine ⟨work.checkOrder_body, fun body answered answers => ?_, fun detail answered answers => ?_⟩
  · obtain ⟨saved, standard, same, ends, read, shown⟩ := run_of_report asks doable levelled answers
    exact ⟨ends, shown, saved, read, standard, same⟩
  · obtain ⟨ends, logged, told, disk, shown⟩ := run_of_problem asks doable levelled answers
    exact ⟨ends, shown, disk, logged, told⟩

def page : Work := ⟨("a.html", "<img src=a>"), [], none, some "m"⟩

def pageText : String :=
  "\x7b\"files\":[\x7b\"filename\":\"a.html\",\"status\":\"modified\"," ++
    "\"contents\":\"<img src=a>\"\x7d],\"model\":\"m\"\x7d"

def pageRequest : Server.HttpRequest := ⟨"POST", "/review", Utf8.encode pageText.toList⟩

theorem read_pageText : Json.read pageText.toList = .ok page.body := by decide +kernel

theorem orders_pageRequest : Server.Orders pageRequest page.order where
  method := rfl
  place := ⟨"/review".toList, rfl, by decide +kernel⟩
  body := ⟨_, Server.bodyValue_of_read (by decide +kernel) (by decide +kernel) read_pageText,
    page.checkOrder_body⟩

def pageArguments : List String := ["--output", "o.json", "--model", "m", "--files", "a.html"]

theorem asks_pageArguments : page.Asks "o.json" pageArguments :=
  ⟨[.output "o.json", .model "m", .files "a.html" []], by decide, rfl⟩

def pageDisk : Disk := ⟨[(["a.html"], Utf8.encode "<img src=a>".toList)], []⟩

def pageSession (level : String) (clock : List Binary64) (reply : ModelReply) : Session :=
  { Session.ofReplies [reply] with
    environment := [("AI_PROVIDER", "openai"), ("AI_API_KEY", "k"), ("LOG_LEVEL", level)]
    clock := clock
    disk := pageDisk }

theorem holds_page : Holds pageDisk "a.html" "<img src=a>" where
  isPath := ⟨by decide +kernel, by decide +kernel⟩
  read := ⟨Utf8.encode "<img src=a>".toList, by decide +kernel, by decide +kernel⟩
  noReturns := by decide +kernel

theorem writable_page : Writable pageDisk "o.json" where
  named := by decide
  isPath := ⟨by decide +kernel, by decide +kernel⟩
  parentIsPath := ⟨by decide +kernel, by decide +kernel⟩
  makes := rfl
  writes _ := ⟨_, rfl⟩

theorem doable_page (level : String) (clock : List Binary64) (reply : ModelReply) :
    page.Doable (pageSession level clock reply) "o.json" where
  readable := by decide
  holds := List.forall_mem_cons.mpr ⟨holds_page, nofun⟩
  writable := writable_page

def fineReply : ModelReply :=
  .content (.str "\x7b\"comment\": \"Fine\", \"confidence\": 1, \"categories\": []\x7d")

def emptyReply : ModelReply := .content .null

def pageAnswer? (session : Session) : Option Json :=
  match ((Server.handle pageRequest).runOn session).1 with
  | .ok (.ok body) => some body
  | _ => none

theorem exists_of_pageAnswer? (answers : (pageAnswer? session).isSome = true) :
    ∃ body answered, (Server.handle pageRequest).runOn session = (.ok (.ok body), answered) := by
  unfold pageAnswer? at answers
  rcases run : (Server.handle pageRequest).runOn session with ⟨_ | response, answered⟩ <;>
    rw [run] at answers
  · cases answers
  · cases response with
    | ok body => exact ⟨body, answered, rfl⟩
    | _ => cases answers

def pageProblem? (session : Session) : Option String :=
  match ((Server.handle pageRequest).runOn session).1 with
  | .ok (.problem 502 detail) => some detail
  | _ => none

theorem exists_of_pageProblem? (answers : pageProblem? session = some detail) :
    ∃ answered, (Server.handle pageRequest).runOn session =
      (.ok (.problem 502 detail), answered) := by
  unfold pageProblem? at answers
  split at answers
  · next run =>
    cases answers
    exact ⟨_, Prod.ext run rfl⟩
  · cases answers

/-- The page with a review, and with a reply that holds none. -/
theorem run_agrees_page :
    let fine := pageSession "error" [.ofNat 1, .ofNat 3] fineReply
    let failing := pageSession "error" [] emptyReply
    (∃ body, pageAnswer? fine = some body ∧ (CommandLine.run pageArguments fine).result = .ok 0 ∧
      (CommandLine.run pageArguments fine).session.disk.read "o.json" =
        .ok (Utf8.encode body.indented.toList)) ∧
    pageProblem? failing = some "OpenAI returned no text content" ∧
    (CommandLine.run pageArguments failing).result = .ok 1 ∧
    ∃ before, (CommandLine.run pageArguments failing).errorText =
      before ++ "ERROR: Review failed: " ++ "OpenAI returned no text content" ++ "\n" := by
  intro fine failing
  constructor
  · have answers : (pageAnswer? fine).isSome = true := by decide +kernel
    obtain ⟨body, answered, handles⟩ := exists_of_pageAnswer? answers
    have levelled : levelIn fine.environment = .ok LogLevel.error.rank := by decide +kernel
    obtain ⟨-, saves, -⟩ := run_agrees orders_pageRequest asks_pageArguments
      (doable_page "error" [.ofNat 1, .ofNat 3] fineReply) levelled
    obtain ⟨ends, -, saved, read, -, same⟩ := saves body answered handles
    obtain rfl := same.mpr (by decide +kernel)
    exact ⟨body, by rw [pageAnswer?, handles], ends, read⟩
  · have problem : pageProblem? failing = some "OpenAI returned no text content" := by
      decide +kernel
    obtain ⟨answered, handles⟩ := exists_of_pageProblem? problem
    have levelled : levelIn failing.environment = .ok LogLevel.error.rank := by decide +kernel
    obtain ⟨-, -, fails⟩ := run_agrees orders_pageRequest asks_pageArguments
      (doable_page "error" [] emptyReply) levelled
    obtain ⟨ends, -, -, -, told⟩ := fails _ answered handles
    exact ⟨problem, ends, told (le_refl _)⟩

/-- A log from the level of critical errors on says nothing of a failure, a level
named as a format ends the program, and a time too long to be a number is not
in the answer. -/
theorem run_differs_page :
    let silent := pageSession "CRITICAL" [] emptyReply
    let misnamed := pageSession "basic_format" [] fineReply
    let endless := pageSession "INFO" [.finite true (2 ^ 53 - 1) 971, .finite false (2 ^ 53 - 1) 971]
      fineReply
    (Server.Orders pageRequest page.order ∧ page.Asks "o.json" pageArguments ∧
      ∀ session ∈ [silent, misnamed, endless], page.Doable session "o.json") ∧
    (pageProblem? silent = some "OpenAI returned no text content" ∧
      (CommandLine.run pageArguments silent).errorText = "") ∧
    ((pageAnswer? misnamed).isSome = true ∧ (CommandLine.run pageArguments misnamed).result =
      .error (.value "Unknown level: '%(levelname)s:%(name)s:%(message)s'")) ∧
    ∃ body saved, pageAnswer? endless = some body ∧
      (CommandLine.run pageArguments endless).session.disk.read "o.json" =
        .ok (Utf8.encode saved.indented.toList) ∧ body ≠ saved := by
  intro silent misnamed endless
  have doable : ∀ session ∈ [silent, misnamed, endless], page.Doable session "o.json" := by
    simp only [List.forall_mem_cons]
    exact ⟨doable_page .., doable_page .., doable_page .., nofun⟩
  refine ⟨⟨orders_pageRequest, asks_pageArguments, doable⟩,
    ⟨by decide +kernel, by decide +kernel⟩, ⟨by decide +kernel, by decide +kernel⟩, ?_⟩
  have answers : (pageAnswer? endless).isSome = true := by decide +kernel
  obtain ⟨body, answered, handles⟩ := exists_of_pageAnswer? answers
  have reviews := handles
  rw [Server.runOn_handle_of_orders orders_pageRequest] at reviews
  have levelled : levelIn endless.environment = .ok LogLevel.info.rank := by decide +kernel
  obtain ⟨saved, -, same, -, read, -⟩ := run_of_report asks_pageArguments
    (doable_page "INFO" _ fineReply) levelled reviews
  refine ⟨body, saved, by rw [pageAnswer?, handles], read, fun equal => ?_⟩
  have endlessly : endless.elapsed.roundHundredths.isFinite = false := by decide +kernel
  exact absurd (same.mp equal) (by rw [endlessly]; decide)

end Work

end PatchReview
