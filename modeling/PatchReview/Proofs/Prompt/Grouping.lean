import Mathlib.Data.List.Sort
import PatchReview.Proofs.Prompt.Lines

/-!
# Grouping by file

The groups of issues are a stable partition by file, and the only one: files come in the order
in which they are first named, and each has the issues that name it, in their order
(`isPartition_iff`). So no issue is lost or doubled on the way into a prompt
(`perm_flatMap_sectionsOf`), and what is grouped already is grouped in the same way
(`groupByFile_flatMap`).
-/

namespace PatchReview.Prompt

-- ---------------------------------------------------------------------------
-- First places
-- ---------------------------------------------------------------------------

section

variable [DecidableEq α] {items : List α}

theorem idxOf_lt_of_filter {keeps : α → Bool} (ha : keeps a = true) (hb : keeps b = true)
    (h : (items.filter keeps).idxOf a < (items.filter keeps).idxOf b) :
    items.idxOf a < items.idxOf b := by
  induction items with
  | nil => exact h
  | cons item rest ih =>
    by_cases kept : keeps item = true
    · rw [List.filter_cons_of_pos kept] at h
      simp only [List.idxOf_cons, Bool.cond_eq_ite, beq_iff_eq] at h ⊢
      by_cases first : item = a <;> by_cases second : item = b <;> simp_all
    · have other {c : α} (hc : keeps c = true) : item ≠ c := by
        rintro rfl
        exact kept hc
      rw [List.filter_cons_of_neg kept] at h
      rw [List.idxOf_cons_ne _ (other ha), List.idxOf_cons_ne _ (other hb)]
      exact Nat.succ_lt_succ (ih h)

/-- Without repetitions, items stand in the order of their first places. -/
theorem pairwise_eraseDups (items : List α) :
    items.eraseDups.Pairwise fun a b => items.idxOf a < items.idxOf b := by
  match items with
  | [] => exact .nil
  | item :: rest =>
    have other {a : α} (listed : a ∈ (rest.filter fun b => !b == item).eraseDups) : a ≠ item := by
      rw [List.mem_eraseDups, List.mem_filter] at listed
      simpa using listed.2
    rw [List.eraseDups_cons]
    refine .cons (fun a listed => ?_) ((pairwise_eraseDups _).imp_of_mem fun ha hb before => ?_)
    · rw [List.idxOf_cons_self, List.idxOf_cons_ne _ (other listed).symm]
      exact Nat.succ_pos _
    · rw [List.idxOf_cons_ne _ (other ha).symm, List.idxOf_cons_ne _ (other hb).symm]
      exact Nat.succ_lt_succ
        (idxOf_lt_of_filter (by simpa using other ha) (by simpa using other hb) before)
termination_by items.length
decreasing_by exact Nat.lt_succ_of_le (List.length_filter_le _ _)

end

-- ---------------------------------------------------------------------------
-- The partition by file
-- ---------------------------------------------------------------------------

def firstPlace (issues : List Issue) (file : String) : Nat := (issues.map (·.file)).idxOf file

/-- Issues by file, the files in the order in which they are first named. -/
structure IsPartition (issues : List Issue) (groups : List (String × List Issue)) : Prop where
  named : ∀ file, file ∈ groups.map Prod.fst ↔ ∃ issue ∈ issues, issue.file = file
  ordered : (groups.map Prod.fst).Pairwise fun first second =>
    firstPlace issues first < firstPlace issues second
  listed : ∀ group ∈ groups, group.2 = issues.filter (·.file = group.1)
  filled : ∀ group ∈ groups, group.2 ≠ []
  whole : (groups.flatMap Prod.snd).Perm issues

theorem files_groupByFile (issues : List Issue) :
    (groupByFile issues).map Prod.fst = (issues.map (·.file)).eraseDups := by
  rw [groupByFile_eq, List.map_map]
  exact List.map_id _

theorem perm_flatMap_groupByFile (issues : List Issue) :
    ((groupByFile issues).flatMap Prod.snd).Perm issues := by
  match issues with
  | [] => exact .nil
  | issue :: rest =>
    have own : (groupOf (issue :: rest) issue.file).2 =
        issue :: rest.filter (·.file = issue.file) := by simp [groupOf]
    have others := perm_flatMap_groupByFile (rest.filter (·.file ≠ issue.file))
    rw [groupByFile_cons, List.flatMap_cons, own, List.cons_append]
    refine .cons issue ((others.append_left _).trans ?_)
    simpa using List.filter_append_perm (fun other => decide (other.file = issue.file)) rest
termination_by issues.length
decreasing_by exact Nat.lt_succ_of_le (List.length_filter_le _ _)

theorem isPartition_groupByFile (issues : List Issue) :
    IsPartition issues (groupByFile issues) where
  named file := by simp [files_groupByFile]
  ordered := by
    rw [files_groupByFile]
    exact pairwise_eraseDups _
  listed group found := by
    obtain ⟨issue, -, rfl⟩ := exists_of_mem_groupByFile found
    rfl
  filled group := ne_nil_of_mem_groupByFile
  whole := perm_flatMap_groupByFile issues

namespace IsPartition

variable {groups others : List (String × List Issue)}

theorem nodup (h : IsPartition issues groups) : (groups.map Prod.fst).Nodup :=
  h.ordered.imp fun before same => absurd (same ▸ before) (Nat.lt_irrefl _)

theorem files_eq (h : IsPartition issues groups) (ho : IsPartition issues others) :
    groups.map Prod.fst = others.map Prod.fst := by
  refine List.Perm.eq_of_pairwise (fun first second _ _ before after => ?_) h.ordered ho.ordered ?_
  · exact absurd (Nat.lt_trans before after) (Nat.lt_irrefl _)
  · refine (List.perm_ext_iff_of_nodup h.nodup ho.nodup).mpr fun file => ?_
    rw [h.named, ho.named]

theorem eq_map (h : IsPartition issues groups) :
    groups = (groups.map Prod.fst).map (groupOf issues) := by
  rw [List.map_map]
  refine (List.map_id groups).symm.trans (List.map_congr_left fun group found => ?_)
  exact Prod.ext rfl (h.listed group found)

end IsPartition

theorem isPartition_iff : IsPartition issues groups ↔ groups = groupByFile issues := by
  constructor
  · intro h
    rw [h.eq_map, h.files_eq (isPartition_groupByFile issues),
      ← (isPartition_groupByFile issues).eq_map]
  · rintro rfl
    exact isPartition_groupByFile issues

-- ---------------------------------------------------------------------------
-- Grouping again
-- ---------------------------------------------------------------------------

theorem groupByFile_append {own others : List Issue} (some : own ≠ [])
    (same : ∀ issue ∈ own, issue.file = file) (apart : ∀ issue ∈ others, issue.file ≠ file) :
    groupByFile (own ++ others) = (file, own) :: groupByFile others := by
  cases own with
  | nil => exact absurd rfl some
  | cons issue rest =>
    rw [List.forall_mem_cons] at same
    obtain ⟨rfl, same⟩ := same
    have kept : rest.filter (·.file = issue.file) = rest := by
      simpa [List.filter_eq_self] using same
    have dropped : rest.filter (·.file ≠ issue.file) = [] := by
      simpa [List.filter_eq_nil_iff] using same
    have notOwn : others.filter (·.file = issue.file) = [] := by
      simpa [List.filter_eq_nil_iff] using apart
    have notDropped : others.filter (·.file ≠ issue.file) = others := by
      simpa [List.filter_eq_self] using apart
    rw [List.cons_append, groupByFile_cons, List.filter_append, dropped, notDropped,
      List.nil_append, groupOf, ← List.cons_append, List.filter_append, notOwn, List.append_nil,
      List.filter_cons_of_pos (by simp), kept]

/-- Groups of different files that hold issues of their own stay the groups. -/
theorem groupByFile_flatMap_of_nodup {groups : List (String × List Issue)}
    (nodup : (groups.map Prod.fst).Nodup) (filled : ∀ group ∈ groups, group.2 ≠ [])
    (own : ∀ group ∈ groups, ∀ issue ∈ group.2, issue.file = group.1) :
    groupByFile (groups.flatMap Prod.snd) = groups := by
  induction groups with
  | nil => rfl
  | cons group rest ih =>
    rw [List.map_cons, List.nodup_cons] at nodup
    rw [List.forall_mem_cons] at filled own
    have apart : ∀ issue ∈ rest.flatMap Prod.snd, issue.file ≠ group.1 := by
      intro issue found same
      obtain ⟨other, listed, inside⟩ := List.mem_flatMap.mp found
      refine nodup.1 (List.mem_map.mpr ⟨other, listed, ?_⟩)
      rw [← own.2 other listed issue inside, same]
    rw [List.flatMap_cons, groupByFile_append filled.1 own.1 apart, ih nodup.2 filled.2 own.2]

theorem groupByFile_flatMap (issues : List Issue) :
    groupByFile ((groupByFile issues).flatMap Prod.snd) = groupByFile issues :=
  groupByFile_flatMap_of_nodup (isPartition_groupByFile issues).nodup
    (isPartition_groupByFile issues).filled fun _ found _ inside => (of_mem_group found inside).2

-- ---------------------------------------------------------------------------
-- Sections
-- ---------------------------------------------------------------------------

/-- An issue as it is written: a line with its type, severity, message and line number, and one
with its suggestion. -/
def issueText (issue : Issue) : String := String.ofList (joinLines (issueLines issue))

theorem formatIssue_eq (issue : Issue) : formatIssue issue = issueText issue :=
  String.toList_inj.mp (by rw [toList_formatIssue, issueText, String.toList_ofList])

def sectionsOf (issues : List Issue) : List (String × List String) :=
  (groupByFile issues).map fun group => (group.1, group.2.map issueText)

def sectionText (part : String × List String) : String :=
  s!"### `{part.1}`\n" ++ "\n".intercalate part.2

def withSections (files : List ChangedFile) (sections : List (String × List String)) : String :=
  system ++ "\n\nPlease review this pull request:\n\n## Changed Files\n" ++
    orElseText (filesSummary files) "- (none)" ++ "\n\n## Issues Found by Static Analysis\n" ++
    (if sections.isEmpty then "No issues detected by static analysis."
      else "\n\n".intercalate (sections.map sectionText)) ++
    "\n\n" ++ instructions

theorem files_sectionsOf (issues : List Issue) :
    (sectionsOf issues).map Prod.fst = (groupByFile issues).map Prod.fst := by
  rw [sectionsOf, List.map_map]
  rfl

theorem perm_flatMap_sectionsOf (issues : List Issue) :
    ((sectionsOf issues).flatMap Prod.snd).Perm (issues.map issueText) := by
  rw [sectionsOf, List.flatMap_map, ← List.map_flatMap]
  exact (perm_flatMap_groupByFile issues).map issueText

theorem issuesPart_eq (issues : List Issue) :
    orElseText (issuesSummary issues) "No issues detected by static analysis." =
      if (sectionsOf issues).isEmpty then "No issues detected by static analysis."
      else "\n\n".intercalate ((sectionsOf issues).map sectionText) := by
  have texts : (sectionsOf issues).map sectionText = (groupByFile issues).map fileSection := by
    rw [sectionsOf, List.map_map]
    refine List.map_congr_left fun group _ => ?_
    rw [fileSection, List.map_congr_left fun issue _ => formatIssue_eq issue]
    rfl
  rw [texts, sectionsOf, List.isEmpty_map, ← issuesSummary]
  cases groups : groupByFile issues with
  | nil => simp [issuesSummary, groups, orElseText]
  | cons group rest =>
    have some : (issuesSummary issues).toList ≠ [] := by
      rw [issuesSummary, String.toList_intercalate, groups, List.map_cons, List.map_cons]
      exact intercalate_ne_nil (by simp [toList_fileSection, sectionHeading]) _ _
    rw [orElseText_of_ne_nil some]
    rfl

theorem build_eq_withSections (issues : List Issue) (files : List ChangedFile) :
    build issues files = withSections files (sectionsOf issues) := by
  rw [withSections, ← issuesPart_eq]
  refine String.toList_inj.mp ?_
  rw [build, String.toList_intercalate]
  simp [List.intercalate_cons_cons]

theorem count_files_sectionsOf (issues : List Issue) (file : String) :
    ((sectionsOf issues).map Prod.fst).count file =
      if ∃ issue ∈ issues, issue.file = file then 1 else 0 := by
  have partition := isPartition_groupByFile issues
  rw [files_sectionsOf]
  split
  · next has => exact List.count_eq_one_of_mem partition.nodup ((partition.named file).mpr has)
  · next none => exact List.count_eq_zero.mpr (mt (partition.named file).mp none)

/-- Issues are grouped into the partition by file, which is the same for the groups after each
other. A prompt has one section for each file with issues, and in the sections each issue is
written once, with all that is known of it but its file, which heads the section. -/
theorem groupByFile_partition (issues : List Issue) :
    (∀ groups, IsPartition issues groups ↔ groups = groupByFile issues) ∧
    (∀ files, build issues files = withSections files (sectionsOf issues)) ∧
    (∀ file, ((sectionsOf issues).map Prod.fst).count file =
      if ∃ issue ∈ issues, issue.file = file then 1 else 0) ∧
    ((sectionsOf issues).flatMap Prod.snd).Perm (issues.map issueText) ∧
    groupByFile ((groupByFile issues).flatMap Prod.snd) = groupByFile issues :=
  ⟨fun _ => isPartition_iff, build_eq_withSections issues, count_files_sectionsOf issues,
    perm_flatMap_sectionsOf issues, groupByFile_flatMap issues⟩

example : issueText ⟨.security, .high, "a.js", some 3, "Use of eval", some "Use JSON.parse"⟩ =
    "- security (high): Use of eval (line 3)\n  💡 Use JSON.parse" := by
  decide +kernel

end PatchReview.Prompt
