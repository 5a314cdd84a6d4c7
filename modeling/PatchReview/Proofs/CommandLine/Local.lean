import PatchReview.Proofs.CommandLine.Delivery
import PatchReview.Proofs.Reviewing.Effect

/-!
# Reviews of local files

Files that are there and hold text are loaded as they are, and loading them
changes nothing (`runOn_localFiles`). A report is delivered to any path that
can be written to, and can then be read there (`exists_runOn_deliver`).
-/

namespace PatchReview.CommandLine

open PatchReview.Action (runOn_bind_ok runOn_bind_error)

-- ---------------------------------------------------------------------------
-- Reading
-- ---------------------------------------------------------------------------

/-- There is a file that holds a text, with line feeds as its only line ends. -/
structure Holds (disk : Disk) (path text : String) : Prop where
  isPath : IsPath (Path.ofString path).text
  read : ∃ octets, disk.read (Path.ofString path).text = .ok octets ∧
    Utf8.decode octets = .ok text.toList
  noReturns : '\r' ∉ text.toList

theorem unifyLineEnds_of_notMem (noReturns : '\r' ∉ text) : unifyLineEnds text = text := by
  fun_induction unifyLineEnds text with
  | case1 | case2 => simp at noReturns
  | case3 c rest _ _ ih => rw [ih fun among => noReturns (List.mem_cons_of_mem _ among)]
  | case4 => rfl

theorem runOn_localFile_of_holds {session : Session} (holds : Holds session.disk path text) :
    (localFile path).runOn session = (.ok ⟨path, .modified, none, some text⟩, session) := by
  obtain ⟨isPath, ⟨octets, read, decodes⟩, noReturns⟩ := holds
  refine runOn_localFile ?_
  rw [runOn_readText _ octets _ session isPath.encodable isPath.noNull read decodes,
    unifyLineEnds_of_notMem noReturns, String.ofList_toList]

theorem runOn_localFiles {session : Session} (files : List (String × String))
    (holds : ∀ file ∈ files, Holds session.disk file.1 file.2) :
    (localFiles (files.map (·.1))).runOn session =
      (.ok (files.map fun file => ⟨file.1, .modified, none, some file.2⟩), session) := by
  induction files with
  | nil => rfl
  | cons file rest ih =>
    obtain ⟨first, others⟩ := List.forall_mem_cons.mp holds
    rw [List.map_cons, localFiles, runOn_bind_ok (runOn_localFile_of_holds first),
      runOn_bind_ok (ih others)]
    rfl

-- ---------------------------------------------------------------------------
-- Saving
-- ---------------------------------------------------------------------------

/-- A path that whatever octets can be written to, once the directories on the
way to it are made. -/
structure Writable (disk : Disk) (path : String) : Prop where
  named : path ≠ ""
  isPath : IsPath path
  parentIsPath : IsPath (Path.ofString path).parent.text
  makes : (disk.makeDirectories (Path.ofString path).parent).2 = none
  writes : ∀ octets, ∃ written,
    (disk.makeDirectories (Path.ofString path).parent).1.write path octets = .ok written

theorem exists_runOn_saveReport (session : Session) (writable : Writable session.disk path)
    (report : Report) : ∃ saved, (saveReport report path).runOn session = (.ok (), saved) := by
  obtain ⟨-, isPath, parentIsPath, makes, writes⟩ := writable
  obtain ⟨written, writes⟩ := writes (Utf8.encode report.toJson.indented.toList)
  have made : (makeDirectories (Path.ofString path).parent).runOn session = (.ok (),
      { session with disk := (session.disk.makeDirectories (Path.ofString path).parent).1 }) := by
    rw [makeDirectories, runOn_bind_ok (runOn_checkPath parentIsPath session),
      runOn_bind_ok (Action.runOn_get session)]
    rcases found : session.disk.makeDirectories (Path.ofString path).parent with ⟨disk, fault⟩
    rw [found] at makes
    obtain rfl : fault = none := makes
    rfl
  have wrote : (writeFile path (Utf8.encode report.toJson.indented.toList)).runOn
      { session with disk := (session.disk.makeDirectories (Path.ofString path).parent).1 } =
        (.ok (), { session with disk := written }) := by
    rw [writeFile, runOn_bind_ok (runOn_checkPath isPath _), runOn_bind_ok (Action.runOn_get _),
      writes]
    rfl
  exact ⟨_, (runOn_bind_ok made).trans ((runOn_bind_ok wrote).trans rfl)⟩

theorem exists_runOn_printLines (lines : List String) (session : Session) :
    ∃ printed, (printLines lines).runOn session =
      (.ok (), { session with printed := printed }) := by
  induction lines generalizing session with
  | nil => exact ⟨session.printed, rfl⟩
  | cons line rest ih =>
    obtain ⟨printed, prints⟩ := ih { session with printed := session.printed ++ line ++ "\n" }
    exact ⟨printed, prints⟩

variable {options : Options} {settings : Settings} {session after : Session}

theorem exists_runOn_deliver (noPost : options.post = false) (output : options.output = some path)
    (writable : Writable session.disk path) (pullRequest : Option PullRequest) (report : Report) :
    ∃ delivered, (deliver options pullRequest report).runOn session = (.ok (), delivered) ∧
      delivered.disk.read path = .ok (Utf8.encode report.toJson.indented.toList) ∧
      delivered.trace = session.trace := by
  have asked : nonEmpty options.output = some path := by
    simp [nonEmpty, output, Option.filter, writable.named]
  obtain ⟨printed, prints⟩ := exists_runOn_printLines (ReportText.lines report) session
  obtain ⟨saved, saves⟩ := exists_runOn_saveReport { session with printed := printed } writable report
  have kept := keeps_saveReport report path { session with printed := printed }
  rw [saves] at kept
  refine ⟨saved, ?_, read_of_saveReport saves, kept⟩
  rw [deliver_eq, runOn_bind_ok prints, saveAsked, asked, runOn_bind_ok saves, noPost]
  rfl

-- ---------------------------------------------------------------------------
-- Reviewing
-- ---------------------------------------------------------------------------

theorem exists_runOn_review (usesModel : options.noLlm = false) (settings : Settings)
    (files : List ChangedFile) (session : Session) :
    ∃ lines, (review options settings files).runOn session =
      (reviewFiles (pool options settings) files (some (providerFor options settings)) true).runOn
        (session.advance 0 [] lines) := by
  obtain ⟨lines, chooses⟩ := Provider.exists_lines_choose (some settings.provider)
    ((nonEmpty options.apiKey).or settings.apiKey) ((nonEmpty options.baseUrl).or settings.baseUrl)
    ((nonEmpty options.model).or settings.model)
  let found := s!"Found {files.length} changed file(s)"
  let starting := s!"Starting AI PR review with provider: {(providerFor options settings).name}"
  have chosen : (chooseProvider options settings).runOn (session.note .info found) =
      (.ok (some (providerFor options settings)),
        ((session.note .info found).advance 0 [] lines).note .info starting) := by
    rw [chooseProvider, if_neg (by rw [usesModel]; decide), runOn_bind_ok (chooses _)]
    rfl
  refine ⟨[⟨.info, found⟩] ++ lines ++ [⟨.info, starting⟩], ?_⟩
  rw [review, runOn_bind_ok (Session.runOn_info ..), runOn_bind_ok chosen, usesModel]
  simp only [Session.note_eq_advance, Session.advance_advance, List.append_nil]
  rfl

-- ---------------------------------------------------------------------------
-- Runs
-- ---------------------------------------------------------------------------

theorem runOn_process (loads : (loadInput options settings).runOn session =
      (.ok (.files files pullRequest), loaded)) :
    (process options settings).runOn session =
      (do
        let report ← review options settings files
        deliver options pullRequest report
        return .exit 0 : Action Session Ending).runOn loaded := by
  rw [process, runOn_bind_ok loads]
  simp only [reviewAndDeliver_eq, bind_assoc]

theorem exists_renderLog_append (log : List LogLine) (line : LogLine)
    (shown : least ≤ line.level.rank) :
    ∃ before, renderLog least (log ++ [line]) = before ++ line.render ++ "\n" := by
  refine ⟨renderLog least log, ?_⟩
  simp [renderLog, List.filter_append, shown, String.join_append, String.append_assoc]

end PatchReview.CommandLine
