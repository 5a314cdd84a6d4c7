import PatchReview.Proofs.Analyzer
import PatchReview.Proofs.Rule
import PatchReview.Proofs.Session

/-!
# What the tables find

The built-in analyzers report on a file with contents what the rows of the
tables do, in the order of the rows, at most one issue a row, and fail on none
(`allIssues_eq`). So no file is left out of an analysis, all that analyzing
adds to the log is a line with the counts, and a list of files has the issues of
its files in their order, whatever the pool (`runOn_analyzeFiles_builtIn`).
-/

namespace PatchReview

open PatchReview.Action (Answers Keeps runOn_bind_ok)

/-- The issue that a row reports on a file, if it reports one. -/
def reported? (file : ChangedFile) (row : Category × Rule Severity) : Option Issue :=
  match row.2.issue? row.1 file with
  | .ok found => found
  | .error _ => none

/-- The issues that the rows of the tables report on a file, which has none
without contents. -/
def tableIssues (file : ChangedFile) : List Issue :=
  if file.text?.isSome then tableRows.filterMap (reported? file) else []

/-- An issue of a row on a file: of the category of the row and with its one
severity and suggestion. -/
structure IsIssueOf (file : ChangedFile) (row : Category × Rule Severity) (issue : Issue) :
    Prop where
  category : issue.category = row.1
  file : issue.file = file.filename
  label : row.2.labels.dedup = [(issue.severity, issue.suggestion)]

-- ---------------------------------------------------------------------------
-- One row
-- ---------------------------------------------------------------------------

theorem ChangedFile.text?_eq_some {file : ChangedFile} :
    file.text? = some text ↔ file.contents = some text ∧ text.isEmpty = false := by
  rw [text?, Option.filter_eq_some_iff, Bool.not_eq_true']

/-- A row comes to an end on all contents. -/
theorem issue?_eq_finding? {file : ChangedFile} (hasContents : file.contents = some text)
    (inTables : row ∈ tableRows) :
    row.2.issue? row.1 file =
      .ok ((row.2.parts.findSome? (Rule.partFinding? file.filename text.toList)).map
        (Finding.toIssue row.1 file.filename)) := by
  rw [Rule.issue?, hasContents, Option.map_some,
    row.2.evaluate_eq_finding? (isPlain_of_mem_tableRows inTables)]
  rfl

theorem reported?_eq_finding? {file : ChangedFile} (hasContents : file.contents = some text)
    (inTables : row ∈ tableRows) :
    reported? file row = (row.2.parts.findSome? (Rule.partFinding? file.filename text.toList)).map
      (Finding.toIssue row.1 file.filename) := by
  rw [reported?, issue?_eq_finding? hasContents inTables]

theorem issue?_eq_reported? {file : ChangedFile} (hasContents : file.contents = some text)
    (inTables : row ∈ tableRows) : row.2.issue? row.1 file = .ok (reported? file row) := by
  rw [issue?_eq_finding? hasContents inTables, reported?_eq_finding? hasContents inTables]

theorem isIssueOf_of_issue? {file : ChangedFile} (inTables : row ∈ tableRows)
    (h : row.2.issue? row.1 file = .ok (some issue)) : IsIssueOf file row issue := by
  unfold Rule.issue? at h
  cases evaluates : row.2.evaluate file.filename (file.contents.map (·.toList)) with
  | error fault =>
    rw [evaluates] at h
    cases h
  | ok found =>
    rw [evaluates] at h
    obtain ⟨finding, rfl, rfl⟩ := Option.map_eq_some_iff.mp (Except.ok.inj h)
    exact ⟨rfl, rfl, dedup_labels_of_mem_tableRows inTables (row.2.label_of_evaluate evaluates)⟩

-- ---------------------------------------------------------------------------
-- One file
-- ---------------------------------------------------------------------------

theorem issuesOf_eq {file : ChangedFile} {category : Category}
    (hasContents : file.contents = some text)
    (inTables : ∀ rule ∈ rules, (category, rule) ∈ tableRows) :
    issuesOf category file rules =
      .ok (rules.filterMap fun rule => reported? file (category, rule)) := by
  induction rules with
  | nil => rfl
  | cons rule rest ih =>
    have first := issue?_eq_reported? hasContents (inTables rule List.mem_cons_self)
    have others := ih fun rule h => inTables rule (List.mem_cons_of_mem _ h)
    rw [issuesOf, first, others, List.filterMap_cons]
    cases reported? file (category, rule) <;> rfl

theorem mem_tableRows (h : rule ∈ rulesFor category) : (category, rule) ∈ tableRows := by
  have listed : category ∈ Category.all := by cases category <;> decide
  exact List.mem_flatMap.mpr ⟨category, listed, List.mem_map.mpr ⟨rule, h, rfl⟩⟩

def categoryIssues (file : ChangedFile) (category : Category) : List Issue :=
  if file.text?.isSome then
    (rulesFor category).filterMap fun rule => reported? file (category, rule)
  else []

theorem analyze_ofTable (category : Category) (file : ChangedFile) :
    (Analyzer.ofTable category).analyze file = .ok (categoryIssues file category) := by
  rw [categoryIssues]
  cases found : file.text? with
  | none => simp [Analyzer.ofTable, found]
  | some text =>
    have contents := (ChangedFile.text?_eq_some.mp found).1
    simp only [Analyzer.ofTable, found, issuesOf_eq contents fun rule h => mem_tableRows h]
    rfl

theorem flatMap_categoryIssues (file : ChangedFile) :
    Category.all.flatMap (categoryIssues file) = tableIssues file := by
  unfold categoryIssues tableIssues tableRows
  split
  · simp [List.filterMap_flatMap, List.filterMap_map]
  · simp

theorem allIssues_eq (file : ChangedFile) : allIssues file = .ok (tableIssues file) := by
  rw [← flatMap_categoryIssues, allIssues, Analyzer.builtIn]
  induction Category.all with
  | nil => rfl
  | cons category rest ih =>
    rw [List.map_cons, Analyzer.analyzeAll, analyze_ofTable, ih, List.flatMap_cons]
    rfl

theorem flatMap_contribution (file : ChangedFile) :
    Analyzer.builtIn.flatMap (·.contribution file) = tableIssues file := by
  rw [← flatMap_categoryIssues, Analyzer.builtIn, List.flatMap_map]
  simp only [Analyzer.contribution, analyze_ofTable]

theorem keeps_analyzeFile_of_ok {analyzers : List Analyzer} {file : ChangedFile}
    (fine : ∀ analyzer ∈ analyzers, ∃ issues, analyzer.analyze file = .ok issues) :
    Keeps id (analyzeFile analyzers file) := by
  induction analyzers with
  | nil => exact .pure _
  | cons analyzer rest ih =>
    obtain ⟨issues, analyzes⟩ := fine analyzer List.mem_cons_self
    unfold analyzeFile
    rw [analyzes]
    exact (ih fun analyzer h => fine analyzer (List.mem_cons_of_mem _ h)).bind fun _ => .pure _

theorem keeps_analyzeFile_builtIn (file : ChangedFile) :
    Keeps id (analyzeFile Analyzer.builtIn file) := by
  refine keeps_analyzeFile_of_ok fun analyzer listed => ?_
  obtain ⟨category, -, rfl⟩ := List.mem_map.mp listed
  exact ⟨_, analyze_ofTable category file⟩

theorem runOn_analyzeFile_builtIn (file : ChangedFile) (session : Session) :
    (analyzeFile Analyzer.builtIn file).runOn session = (.ok (tableIssues file), session) :=
  Prod.ext ((answers_analyzeFile Analyzer.builtIn file session).trans
    (congrArg Except.ok (flatMap_contribution file))) (keeps_analyzeFile_builtIn file session)

-- ---------------------------------------------------------------------------
-- Many files
-- ---------------------------------------------------------------------------

theorem findings_builtIn (files : List ChangedFile) :
    findings Analyzer.builtIn files = files.flatMap tableIssues := by
  simp only [findings, flatMap_contribution]
  induction files with
  | nil => rfl
  | cons file rest ih =>
    rw [List.flatMap_cons, ← ih]
    cases found : file.text?.isSome with
    | true => simp [found]
    | false => simp [found, tableIssues]

def analysisLine (files : List ChangedFile) : String :=
  let analyzable := files.filter (·.text?.isSome)
  let issues := files.flatMap tableIssues
  s!"Analyzed {analyzable.length} file(s), found {issues.length} potential issue(s)"

theorem runOn_analyzeFiles (pool : Pool) (files : List ChangedFile) (session : Session) :
    (analyzeFiles pool Analyzer.builtIn files).runOn session =
      (.ok (files.flatMap tableIssues), session.note .info (analysisLine files)) := by
  have answers := Pool.answers_map (files.filter (·.text?.isSome)) pool
    (answers_analyzeFile Analyzer.builtIn) session
  have kept := Pool.keeps_map pool keeps_analyzeFile_builtIn
    (files.filter (·.text?.isSome)) session
  have issues : ((files.filter (·.text?.isSome)).map fun file =>
      Analyzer.builtIn.flatMap (·.contribution file)).flatten = files.flatMap tableIssues :=
    findings_builtIn files
  unfold analyzeFiles
  rw [runOn_bind_ok (Prod.ext answers kept), issues]
  rfl

/-- An analysis by the tables gives the issues of all rows for each file in turn,
whatever the pool, so that lists of files may be analyzed apart. It agrees with
the analysis of single files, and fails in no row on any contents: nothing but
the line with the counts is logged. -/
theorem runOn_analyzeFiles_builtIn :
    tableRows.length = 13 ∧
    (∀ pool files session, (analyzeFiles pool Analyzer.builtIn files).runOn session =
      (.ok (files.flatMap tableIssues), session.note .info (analysisLine files))) ∧
    (∀ pool files others session,
      ((analyzeFiles pool Analyzer.builtIn (files ++ others)).runOn session).1 =
        .ok (files.flatMap tableIssues ++ others.flatMap tableIssues)) ∧
    (∀ file, allIssues file = .ok (tableIssues file) ∧
      ∀ session, (analyzeFile Analyzer.builtIn file).runOn session =
        (.ok (tableIssues file), session)) ∧
    ∀ file, ∀ row ∈ tableRows,
      (∀ text, file.contents = some text → row.2.issue? row.1 file = .ok (reported? file row)) ∧
      ∀ issue ∈ reported? file row, IsIssueOf file row issue := by
  refine ⟨length_tableRows, runOn_analyzeFiles, ?_, ?_, ?_⟩
  · intro pool files others session
    rw [runOn_analyzeFiles, List.flatMap_append]
  · exact fun file => ⟨allIssues_eq file, runOn_analyzeFile_builtIn file⟩
  · refine fun file row inTables => ⟨fun text contents => ?_, fun issue found => ?_⟩
    · exact issue?_eq_reported? contents inTables
    · refine isIssueOf_of_issue? inTables ?_
      unfold reported? at found
      split at found
      · next evaluates => rw [evaluates, Option.mem_def.mp found]
      · cases found

/-- Two workers, the second of whom is done first. -/
def swappedPool : Pool := ⟨2, fun jobs => (List.range jobs).reverse, fun _ => List.reverse_perm _⟩

/-- A page, a file that was removed, and a script. -/
theorem runOn_analyzeFiles_swapped :
    let page : ChangedFile := ⟨"page.html", .added, none, some "<img src=a>"⟩
    let removed : ChangedFile := ⟨"old.html", .removed, none, none⟩
    let script : ChangedFile := ⟨"run.js", .modified, none, some "eval (\"{0}\")"⟩
    let issue : Issue := ⟨.security, .high, "run.js", none, "Usage of eval() detected",
      "Avoid eval() as it can execute arbitrary code and poses security risks"⟩
    ((analyzeFiles swappedPool Analyzer.builtIn [page, removed, script]).runOn (.ofReplies [])).1 =
        .ok (tableIssues page ++ [issue]) ∧
      (.security, .pattern evalUsage) ∈ tableRows ∧
      IsIssueOf script (.security, .pattern evalUsage) issue := by
  intro page removed script issue
  obtain ⟨-, runs, -, -, rows⟩ := runOn_analyzeFiles_builtIn
  have inTables : (Category.security, Rule.pattern evalUsage) ∈ tableRows := by
    refine mem_tableRows ?_
    exact List.mem_cons_self
  have issues : tableIssues script = [issue] := by decide +kernel
  have found : issue ∈ reported? script (.security, .pattern evalUsage) := by decide +kernel
  refine ⟨?_, inTables, (rows script _ inTables).2 issue found⟩
  rw [runs, List.flatMap_cons, List.flatMap_cons, List.flatMap_cons, issues]
  rfl

end PatchReview
