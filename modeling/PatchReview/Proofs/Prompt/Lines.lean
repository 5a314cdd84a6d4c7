import PatchReview.Prompt
import PatchReview.Proofs.Text.Separator

/-!
# The lines of a prompt

A prompt is a text of lines between two fixed ones: the changed files, an empty
line, and the paragraphs on issues with empty lines between them
(`toList_build`). Lines come apart at line feeds and paragraphs at empty lines,
so that files and paragraphs can be told from the text.
-/

namespace PatchReview.Prompt

-- ---------------------------------------------------------------------------
-- Parts with a separator between them
-- ---------------------------------------------------------------------------

theorem intercalate_append {separator : List α} {parts others : List (List α)}
    (hp : parts ≠ []) (ho : others ≠ []) :
    separator.intercalate (parts ++ others) =
      separator.intercalate parts ++ separator ++ separator.intercalate others := by
  induction parts with
  | nil => exact absurd rfl hp
  | cons part rest ih =>
    rw [List.cons_append, List.intercalate_cons_of_ne_nil (by simp [ho])]
    cases rest with
    | nil => rw [List.nil_append, List.intercalate_singleton]
    | cons next later =>
      rw [ih (by simp), List.intercalate_cons_cons]
      simp only [List.append_assoc]

theorem intercalate_ne_nil {part : List α} (h : part ≠ []) (separator : List α)
    (rest : List (List α)) : separator.intercalate (part :: rest) ≠ [] := by
  cases rest with
  | nil => simpa using h
  | cons next later => simp [List.intercalate_cons_cons, h]

theorem mem_of_mem_intercalate {separator : List α} {parts : List (List α)}
    (h : item ∈ separator.intercalate parts) :
    item ∈ separator ∨ ∃ part ∈ parts, item ∈ part := by
  induction parts with
  | nil => cases h
  | cons part rest ih =>
    cases rest with
    | nil => exact .inr ⟨part, List.mem_cons_self, by simpa using h⟩
    | cons next later =>
      rw [List.intercalate_cons_cons] at h
      obtain first | later := List.mem_append.mp h
      · exact (List.mem_append.mp first).symm.imp_right fun here => ⟨part, List.mem_cons_self, here⟩
      · exact (ih later).imp_right fun ⟨other, listed, inside⟩ =>
          ⟨other, List.mem_cons_of_mem _ listed, inside⟩

theorem getLast?_intercalate {last : List α} (h : last ≠ []) (separator : List α)
    (parts : List (List α)) :
    (separator.intercalate (parts ++ [last])).getLast? = last.getLast? := by
  by_cases none : parts = []
  · rw [none, List.nil_append, List.intercalate_singleton]
  · rw [intercalate_append none (by simp), List.intercalate_singleton,
      List.getLast?_append, Option.or_of_isSome (by simpa using h)]

theorem intercalate_inj [DecidableEq α] {separator : α} {parts others : List (List α)}
    (hp : ∀ part ∈ parts, separator ∉ part) (ho : ∀ part ∈ others, separator ∉ part)
    (np : parts ≠ []) (no : others ≠ [])
    (h : [separator].intercalate parts = [separator].intercalate others) : parts = others := by
  rw [← List.splitOn_intercalate separator hp np, h, List.splitOn_intercalate separator ho no]

-- ---------------------------------------------------------------------------
-- Lines and paragraphs
-- ---------------------------------------------------------------------------

def joinLines (lines : List (List Char)) : List Char := ['\n'].intercalate lines

/-- The lines of some paragraphs with empty lines between them. -/
def spaced (paragraphs : List (List (List Char))) : List (List Char) := [[]].intercalate paragraphs

theorem joinLines_append (hl : lines ≠ []) (ho : others ≠ []) :
    joinLines (lines ++ others) = joinLines lines ++ '\n' :: joinLines others := by
  rw [joinLines, intercalate_append hl ho, List.append_assoc]
  rfl

theorem joinLines_cons (line : List Char) (hl : lines ≠ []) :
    joinLines (line :: lines) = line ++ '\n' :: joinLines lines := by
  rw [joinLines, List.intercalate_cons_of_ne_nil hl, List.append_assoc]
  rfl

theorem joinLines_flatten {parts : List (List (List Char))} (h : ∀ part ∈ parts, part ≠ []) :
    joinLines parts.flatten = joinLines (parts.map joinLines) := by
  induction parts with
  | nil => rfl
  | cons part rest ih =>
    rw [List.forall_mem_cons] at h
    cases rest with
    | nil => simp [joinLines]
    | cons next later =>
      have nonempty : (next :: later).flatten ≠ [] := by
        simp [h.2 next List.mem_cons_self]
      rw [List.flatten_cons, joinLines_append h.1 nonempty, ih h.2, List.map_cons (l := next :: _),
        joinLines_cons _ (by simp)]

theorem spaced_ne_nil {paragraphs : List (List (List Char))} (hp : paragraphs ≠ [])
    (h : ∀ lines ∈ paragraphs, lines ≠ []) : spaced paragraphs ≠ [] := by
  cases paragraphs with
  | nil => exact absurd rfl hp
  | cons lines rest =>
    have nonempty := h lines List.mem_cons_self
    cases rest with
    | nil => simpa [spaced] using nonempty
    | cons next later => simp [spaced, List.intercalate_cons_cons]

theorem joinLines_spaced {paragraphs : List (List (List Char))}
    (h : ∀ lines ∈ paragraphs, lines ≠ []) :
    joinLines (spaced paragraphs) = ['\n', '\n'].intercalate (paragraphs.map joinLines) := by
  induction paragraphs with
  | nil => rfl
  | cons lines rest ih =>
    rw [List.forall_mem_cons] at h
    cases rest with
    | nil => simp [spaced]
    | cons next later =>
      have nonempty := spaced_ne_nil (by simp) h.2
      rw [spaced, List.intercalate_cons_cons, ← spaced, List.append_assoc, List.singleton_append,
        joinLines_append h.1 (by simp), joinLines_cons _ nonempty, ih h.2]
      simp [List.intercalate_cons_cons]

-- ---------------------------------------------------------------------------
-- Groups
-- ---------------------------------------------------------------------------

def groupOf (issues : List Issue) (file : String) : String × List Issue :=
  (file, issues.filter (·.file = file))

theorem foldl_addToGroup (issues first : List Issue) (groups : List (String × List Issue)) :
    issues.foldl (fun groups issue => addToGroup issue groups) ((file, first) :: groups) =
      (file, first ++ issues.filter (·.file = file)) ::
        (issues.filter (·.file ≠ file)).foldl (fun groups issue => addToGroup issue groups)
          groups := by
  induction issues generalizing first groups with
  | nil => simp
  | cons issue rest ih =>
    by_cases same : issue.file = file
    · simp [addToGroup, same, ih]
    · simp [addToGroup, same, Ne.symm same, ih]

theorem groupByFile_cons (issue : Issue) (rest : List Issue) :
    groupByFile (issue :: rest) =
      groupOf (issue :: rest) issue.file :: groupByFile (rest.filter (·.file ≠ issue.file)) := by
  rw [groupByFile, List.foldl_cons, addToGroup, foldl_addToGroup]
  simp [groupOf, groupByFile]

theorem groupOf_filter {other : String} (h : file ≠ other) (issues : List Issue) :
    groupOf (issues.filter (·.file ≠ other)) file = groupOf issues file := by
  rw [groupOf, groupOf, List.filter_filter]
  congr 2
  funext issue
  by_cases same : issue.file = file <;> simp [same, h]

theorem groupByFile_eq (issues : List Issue) :
    groupByFile issues = (issues.map (·.file)).eraseDups.map (groupOf issues) := by
  match issues with
  | [] => rfl
  | issue :: rest =>
    have others : (rest.filter (·.file ≠ issue.file)).map (·.file) =
        (rest.map (·.file)).filter fun file => !file == issue.file := by
      rw [List.filter_map]
      congr 1
      refine List.filter_congr fun other _ => ?_
      by_cases same : other.file = issue.file <;> simp [same]
    rw [groupByFile_cons, groupByFile_eq, others, List.map_cons, List.eraseDups_cons,
      List.map_cons]
    congr 1
    refine List.map_congr_left fun file listed => ?_
    have other : file ≠ issue.file := by
      rw [List.mem_eraseDups, List.mem_filter] at listed
      simpa using listed.2
    rw [groupOf_filter other, groupOf, groupOf, List.filter_cons_of_neg (by simpa using other.symm)]
termination_by issues.length
decreasing_by exact Nat.lt_succ_of_le (List.length_filter_le _ _)

theorem exists_of_mem_groupByFile (h : group ∈ groupByFile issues) :
    ∃ issue ∈ issues, group = groupOf issues issue.file := by
  rw [groupByFile_eq] at h
  obtain ⟨file, listed, rfl⟩ := List.mem_map.mp h
  obtain ⟨issue, found, rfl⟩ := List.mem_map.mp (List.mem_eraseDups.mp listed)
  exact ⟨issue, found, rfl⟩

theorem ne_nil_of_mem_groupByFile (h : group ∈ groupByFile issues) : group.2 ≠ [] := by
  obtain ⟨issue, found, rfl⟩ := exists_of_mem_groupByFile h
  exact List.ne_nil_of_mem (List.mem_filter.mpr ⟨found, by simp⟩)

theorem of_mem_group (hg : group ∈ groupByFile issues) (hi : issue ∈ group.2) :
    issue ∈ issues ∧ issue.file = group.1 := by
  obtain ⟨first, -, rfl⟩ := exists_of_mem_groupByFile hg
  obtain ⟨found, named⟩ := List.mem_filter.mp hi
  exact ⟨found, of_decide_eq_true named⟩

-- ---------------------------------------------------------------------------
-- The lines of a prompt
-- ---------------------------------------------------------------------------

def statusMark (status : FileStatus) : List Char :=
  "` (".toList ++ (status.name.toList ++ ")".toList)

def fileLine (file : String × FileStatus) : List Char :=
  "- `".toList ++ (file.1.toList ++ statusMark file.2)

/-- The beginning of an issue's first line: its type and its severity. -/
def label (category : Category) (severity : Severity) : List Char :=
  let type := match category with
    | .accessibility => "accessibility"
    | .performance => "performance"
    | .security => "security"
  let level := match severity with
    | .low => "low"
    | .medium => "medium"
    | .high => "high"
  "- ".toList ++ type.toList ++ " (".toList ++ level.toList ++ "): ".toList

def lineMark : Option Int → List Char
  | some line => " (line".toList ++ ' ' :: (line.repr.toList ++ ")".toList)
  | none => []

def headline (issue : Issue) : List Char :=
  label issue.category issue.severity ++ (issue.message.toList ++ lineMark issue.line)

def suggestionLines : Option String → List (List Char)
  | some text => if text.isEmpty then [] else ["  💡 ".toList ++ text.toList]
  | none => []

def issueLines (issue : Issue) : List (List Char) :=
  headline issue :: suggestionLines issue.suggestion

def sectionHeading (file : String) : List Char := "### `".toList ++ (file.toList ++ "`".toList)

def sectionLines (group : String × List Issue) : List (List Char) :=
  sectionHeading group.1 :: group.2.flatMap issueLines

def fileLines (files : List ChangedFile) : List (List Char) :=
  if files.isEmpty then ["- (none)".toList]
  else files.map fun file => fileLine (file.filename, file.status)

def issueParagraphs (issues : List Issue) : List (List (List Char)) :=
  if (groupByFile issues).isEmpty then [["No issues detected by static analysis.".toList]]
  else (groupByFile issues).map sectionLines

def bodyLines (issues : List Issue) (files : List ChangedFile) : List (List Char) :=
  fileLines files ++
    [] :: "## Issues Found by Static Analysis".toList :: spaced (issueParagraphs issues)

theorem toString_text (text : String) : toString text = text := rfl

theorem toList_fileLine (file : ChangedFile) :
    (s!"- `{file.filename}` ({file.status.name})").toList =
      fileLine (file.filename, file.status) := by
  simp only [toString_text, String.toList_append, List.append_assoc, fileLine, statusMark]

theorem label_eq (category : Category) (severity : Severity) :
    label category severity = "- ".toList ++ category.name.toList ++
      " (".toList ++ severity.name.toList ++ "): ".toList := by
  cases category <;> cases severity <;> rfl

theorem toList_formatIssue (issue : Issue) :
    (formatIssue issue).toList = joinLines (issueLines issue) := by
  obtain ⟨category, severity, file, line, message, suggestion⟩ := issue
  cases suggestion with
  | none =>
    cases line <;>
      simp [formatIssue, toString_text, issueLines, headline, label_eq, lineMark, suggestionLines,
        joinLines]
  | some text =>
    by_cases empty : text.isEmpty = true <;> cases line <;>
      simp [formatIssue, toString_text, issueLines, headline, label_eq, lineMark, suggestionLines,
        joinLines, empty]

theorem toList_fileSection (group : String × List Issue) :
    (fileSection group).toList =
      sectionHeading group.1 ++ '\n' :: joinLines (group.2.flatMap issueLines) := by
  have nonempty : ∀ lines ∈ group.2.map issueLines, lines ≠ [] := by simp [issueLines]
  rw [fileSection, List.flatMap_def, joinLines_flatten nonempty]
  simp [toString_text, sectionHeading, joinLines, Function.comp_def, toList_formatIssue]

theorem orElseText_of_ne_nil (h : text.toList ≠ []) (fallback : String) :
    orElseText text fallback = text := by
  rw [orElseText, if_neg]
  intro empty
  exact h (String.toList_eq_nil_iff.mpr (String.isEmpty_iff.mp empty))

theorem toList_filesPart (files : List ChangedFile) :
    (orElseText (filesSummary files) "- (none)").toList = joinLines (fileLines files) := by
  cases files with
  | nil => rfl
  | cons file rest =>
    have summary : (filesSummary (file :: rest)).toList = joinLines (fileLines (file :: rest)) := by
      rw [filesSummary, String.toList_intercalate, List.map_map, fileLines, if_neg (by simp)]
      exact congrArg joinLines (List.map_congr_left fun other _ => toList_fileLine other)
    have nonempty : joinLines (fileLines (file :: rest)) ≠ [] :=
      intercalate_ne_nil (by simp [fileLine]) _ _
    rw [orElseText_of_ne_nil (summary ▸ nonempty), summary]

theorem ne_nil_of_mem_issueParagraphs (h : lines ∈ issueParagraphs issues) : lines ≠ [] := by
  unfold issueParagraphs at h
  split at h
  · simp_all
  · obtain ⟨group, -, rfl⟩ := List.mem_map.mp h
    simp [sectionLines]

theorem joinLines_sectionLines (h : group ∈ groupByFile issues) :
    joinLines (sectionLines group) = (fileSection group).toList := by
  obtain ⟨issue, found⟩ := List.exists_mem_of_ne_nil _ (ne_nil_of_mem_groupByFile h)
  have nonempty : group.2.flatMap issueLines ≠ [] :=
    List.ne_nil_of_mem (List.mem_flatMap.mpr ⟨issue, found, List.mem_cons_self⟩)
  rw [toList_fileSection, sectionLines, joinLines_cons _ nonempty]

theorem toList_issuesPart (issues : List Issue) :
    (orElseText (issuesSummary issues) "No issues detected by static analysis.").toList =
      joinLines (spaced (issueParagraphs issues)) := by
  have summary : (issuesSummary issues).toList =
      ['\n', '\n'].intercalate (((groupByFile issues).map sectionLines).map joinLines) := by
    rw [issuesSummary, String.toList_intercalate, List.map_map, List.map_map]
    exact congrArg _ (List.map_congr_left fun group h => (joinLines_sectionLines h).symm)
  rw [joinLines_spaced fun lines => ne_nil_of_mem_issueParagraphs, issueParagraphs]
  cases groups : groupByFile issues with
  | nil => simp [issuesSummary, groups, orElseText, joinLines]
  | cons group rest =>
    have nonempty : (issuesSummary issues).toList ≠ [] := by
      rw [summary, groups]
      exact intercalate_ne_nil (intercalate_ne_nil (by simp [sectionHeading]) _ _) _ _
    rw [orElseText_of_ne_nil nonempty, summary, groups, if_neg (by simp)]

def opening : List Char :=
  (system ++ "\n\nPlease review this pull request:\n\n## Changed Files\n").toList

def closing : List Char := ("\n\n" ++ instructions).toList

theorem toList_build (issues : List Issue) (files : List ChangedFile) :
    (build issues files).toList = opening ++ joinLines (bodyLines issues files) ++ closing := by
  have hasFiles : fileLines files ≠ [] := by
    unfold fileLines
    split <;> simp_all
  have hasParagraphs : spaced (issueParagraphs issues) ≠ [] := by
    refine spaced_ne_nil ?_ fun lines => ne_nil_of_mem_issueParagraphs
    unfold issueParagraphs
    split <;> simp_all
  rw [build, String.toList_intercalate, bodyLines, joinLines_append hasFiles (by simp),
    joinLines_cons _ (by simp), joinLines_cons _ hasParagraphs, ← toList_filesPart,
    ← toList_issuesPart, opening, closing]
  simp [List.intercalate_cons_cons]

end PatchReview.Prompt
