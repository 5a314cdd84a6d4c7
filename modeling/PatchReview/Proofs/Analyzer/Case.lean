import Mathlib.Data.List.Forall2
import PatchReview.Proofs.Analyzer.BuiltIn
import PatchReview.Proofs.Pattern.Case
import PatchReview.Proofs.Pattern.Taken

/-!
# What the tables see of a file

The rows of the tables see letters in any case alike, and nothing of a file but
its contents and whether it is a script with markup. So two files that do not
differ in more than that have the same issues, up to the case of letters in
messages (`sameButCase_allIssues`). A run on a text in lower case serves as the
measure of both.
-/

namespace PatchReview

-- ---------------------------------------------------------------------------
-- Messages
-- ---------------------------------------------------------------------------

theorem map_toLower_intercalate (separator : List Char) (texts : List (List Char)) :
    (separator.intercalate texts).map Char.toLower =
      (separator.map Char.toLower).intercalate (texts.map (·.map Char.toLower)) := by
  induction texts with
  | nil => rfl
  | cons text rest ih =>
    cases rest with
    | nil => simp
    | cons next later =>
      rw [List.map_cons] at ih
      simp only [List.map_cons, List.intercalate_cons_cons, List.map_append, ih]

theorem map_toLower_joinTexts (texts : List (List Char)) :
    (joinTexts (texts.map (·.map Char.toLower))).toList.map Char.toLower =
      (joinTexts texts).toList.map Char.toLower := by
  simp only [joinTexts, String.toList_intercalate, List.map_map, Function.comp_def,
    String.toList_ofList, map_toLower_intercalate, Text.toLower_toLower]

theorem map_toLower_shown (piece : TemplatePiece OuterLayout) (found : List (List Char)) :
    (piece.shown (PatternRule.matchedTexts (found.map (·.map Char.toLower)))).map Char.toLower =
      (piece.shown (PatternRule.matchedTexts found)).map Char.toLower := by
  cases piece with
  | text | fault => rfl
  | field given =>
    rw [TemplatePiece.shown, TemplatePiece.shown]
    cases given.source with
    | count => simp [TemplateSource.shown, PatternRule.matchedTexts]
    | all => exact map_toLower_joinTexts found
    | sample =>
      simp only [TemplateSource.shown, PatternRule.matchedTexts, ← List.map_take]
      exact map_toLower_joinTexts _
    | fault => rfl

def Finding.lower (finding : Finding σ) : Finding σ :=
  { finding with message := finding.message.toLower }

-- ---------------------------------------------------------------------------
-- Pattern rules
-- ---------------------------------------------------------------------------

def Acceptance.isCaseless : Acceptance → Bool
  | always | someBegins _ => true
  | someContains _ => false

theorem Acceptance.holds_lower {accept : Acceptance} (h : accept.isCaseless = true)
    (found : List (List Char)) :
    accept.holds (found.map (·.map Char.toLower)) = accept.holds found := by
  cases accept with
  | always => rfl
  | someContains text => cases h
  | someBegins beginnings =>
    simp only [holds, List.any_map, Function.comp_def, List.map_map, Text.lowerAscii_toLower]

namespace PatternRule

variable {rule : PatternRule σ}

def isCaseless (rule : PatternRule σ) : Bool :=
  rule.pattern.isCaseless && rule.unlessFound.all (·.isCaseless) && rule.accept.isCaseless

theorem found_lower (h : rule.isCaseless = true) (text : List Char) :
    rule.found (text.map Char.toLower) = (rule.found text).map (·.map Char.toLower) := by
  simp only [isCaseless, Bool.and_eq_true] at h
  rw [found, found, Pattern.findAll_lower h.1.1, List.map_map, List.map_map]
  rfl

theorem fires_lower (h : rule.isCaseless = true) (found : List (List Char)) (text : List Char) :
    rule.fires (found.map (·.map Char.toLower)) (text.map Char.toLower) =
      rule.fires found text := by
  simp only [isCaseless, Bool.and_eq_true] at h
  have unless_lower : rule.unlessFound.any (·.occursIn (text.map Char.toLower)) =
      rule.unlessFound.any (·.occursIn text) := by
    cases suppressed : rule.unlessFound with
    | none => rfl
    | some p =>
      have caseless := h.1.2
      rw [suppressed] at caseless
      exact Pattern.occursIn_lower caseless text
  rw [fires, fires, List.length_map, unless_lower, Acceptance.holds_lower h.2]

theorem finding?_lower (h : rule.isCaseless = true)
    (named : rule.appliesTo filename = rule.appliesTo other) (text : List Char) :
    (rule.finding? filename (text.map Char.toLower)).map Finding.lower =
      (rule.finding? other text).map Finding.lower := by
  rw [finding?, finding?, found_lower h, fires_lower h, named]
  split
  · simp only [Option.map_some, Finding.lower, Option.some.injEq, Finding.mk.injEq, true_and,
      and_true]
    rw [← String.toList_inj, Text.toList_toLower, Text.toList_toLower, String.toList_ofList,
      String.toList_ofList, List.map_flatMap, List.map_flatMap]
    simp only [map_toLower_shown]
  · rfl

end PatternRule

-- ---------------------------------------------------------------------------
-- Headings
-- ---------------------------------------------------------------------------

namespace HeadingRule

theorem isCaseless_tag : tag.isCaseless = true := by decide

theorem exists_digit_of_mem (h : m ∈ tag.findAll text) :
    ∃ first second digit rest, m.text = first :: second :: digit :: rest ∧
      digit.isAlpha = false := by
  obtain ⟨there, reached, starts⟩ := Pattern.reaches_of_mem_findAll h
  obtain ⟨opened, opens, reached⟩ := List.mem_flatMap.mp reached
  obtain ⟨named, names, reached⟩ := List.mem_flatMap.mp reached
  obtain ⟨between, isFirst, opens⟩ := List.mem_flatMap.mp opens
  obtain ⟨_, isSecond, opens⟩ := List.mem_flatMap.mp opens
  obtain rfl := List.mem_singleton.mp opens
  obtain ⟨first, begins, -⟩ := Pattern.mem_ends_letter.mp isFirst
  obtain ⟨second, goesOn, -⟩ := Pattern.mem_ends_letter.mp isSecond
  obtain ⟨digit, follows, -, isDigit⟩ := Pattern.mem_ends_one.mp names
  obtain ⟨others, ends, -⟩ := Pattern.exists_takes reached
  refine ⟨first, second, digit, others, ?_, ?_⟩
  · rw [begins, goesOn, follows, ends] at starts
    exact (List.append_cancel_right (by simpa using starts)).symm
  · have noLetters : ['1', '2', '3', '4', '5', '6'].all (fun d => !d.isAlpha) = true := by decide
    simpa using List.all_eq_true.mp noLetters digit (List.contains_iff_mem.mp isDigit)

theorem level_lower (h : m ∈ tag.findAll text) : level m.lower = level m := by
  obtain ⟨first, second, digit, rest, same, noLetter⟩ := exists_digit_of_mem h
  have kept : digit.toLower = digit := (Text.toLower_eq_iff noLetter).mpr rfl
  simp [level, Match.lower, same, kept]

theorem firstSkip_lower {tags : List Match} (h : ∀ m ∈ tags, level m.lower = level m)
    (previous : Option Nat) :
    firstSkip previous (tags.map Match.lower) = (firstSkip previous tags).map Match.lower := by
  induction tags generalizing previous with
  | nil => rfl
  | cons m rest ih =>
    rw [List.forall_mem_cons] at h
    rw [List.map_cons, firstSkip, firstSkip, h.1, ih h.2]
    split <;> rfl

theorem finding?_lower (rule : HeadingRule σ) (text : List Char) :
    rule.finding? (text.map Char.toLower) = rule.finding? text := by
  rw [finding?, finding?, Pattern.findAll_lower isCaseless_tag,
    firstSkip_lower fun m h => level_lower h, Option.map_map]
  congr 1
  funext skip
  simp [Match.lower, Cursor.line_lower]

end HeadingRule

-- ---------------------------------------------------------------------------
-- The tables
-- ---------------------------------------------------------------------------

/-- Whether a part is caseless, and for all files or only for scripts with markup. -/
def Rule.seesNoCase : PatternRule σ ⊕ HeadingRule σ → Bool :=
  Sum.elim
    (fun rule => rule.isCaseless &&
      (rule.extensions.isEmpty || rule.extensions == [".tsx", ".jsx"]))
    (fun _ => true)

theorem seesNoCase_of_mem_tableRows (h : row ∈ tableRows) (hp : part ∈ row.2.parts) :
    Rule.seesNoCase part = true := by
  have all : ∀ row ∈ tableRows, ∀ part ∈ row.2.parts, Rule.seesNoCase part = true := by decide
  exact all row h part hp

section
variable {filename other : String}
  (named : hasExtension [".tsx", ".jsx"] filename = hasExtension [".tsx", ".jsx"] other)

include named

theorem PatternRule.appliesTo_congr {rule : PatternRule σ}
    (h : (rule.extensions.isEmpty || rule.extensions == [".tsx", ".jsx"]) = true) :
    rule.appliesTo filename = rule.appliesTo other := by
  rw [Bool.or_eq_true, beq_iff_eq] at h
  obtain all | scripts := h
  · simp [appliesTo, all]
  · rw [appliesTo, appliesTo, scripts, named]

theorem Rule.partFinding?_lower (h : seesNoCase part = true) (text : List Char) :
    (partFinding? filename (text.map Char.toLower) part).map Finding.lower =
      (partFinding? other text part).map Finding.lower := by
  cases part with
  | inl rule =>
    rw [seesNoCase, Sum.elim_inl, Bool.and_eq_true] at h
    exact PatternRule.finding?_lower h.1 (PatternRule.appliesTo_congr named h.2) text
  | inr rule => exact congrArg (Option.map Finding.lower) (rule.finding?_lower text)

theorem findSome?_lower (inTables : row ∈ tableRows) (text : List Char) :
    (row.2.parts.findSome? (Rule.partFinding? filename (text.map Char.toLower))).map
        Finding.lower =
      (row.2.parts.findSome? (Rule.partFinding? other text)).map Finding.lower := by
  have seen : ∀ part ∈ row.2.parts, Rule.seesNoCase part = true :=
    fun part => seesNoCase_of_mem_tableRows inTables
  generalize row.2.parts = parts at seen ⊢
  induction parts with
  | nil => rfl
  | cons part rest ih =>
    rw [List.forall_mem_cons] at seen
    have first := Rule.partFinding?_lower named seen.1 text
    rw [List.findSome?_cons, List.findSome?_cons]
    cases here : Rule.partFinding? filename (text.map Char.toLower) part <;>
      cases there : Rule.partFinding? other text part <;>
      simp only [here, there, Option.map_none, Option.map_some, reduceCtorEq] at first
    · exact ih seen.2
    · exact first

end

-- ---------------------------------------------------------------------------
-- Two files
-- ---------------------------------------------------------------------------

/-- An issue of a file and one of another file that agree up to the case of
letters in their messages. -/
structure SameButCase (file other : ChangedFile) (issue counterpart : Issue) : Prop where
  category : issue.category = counterpart.category
  severity : issue.severity = counterpart.severity
  line : issue.line = counterpart.line
  suggestion : issue.suggestion = counterpart.suggestion
  message : issue.message.toLower = counterpart.message.toLower
  file : issue.file = file.filename
  other : counterpart.file = other.filename

theorem sameButCase_toIssue {finding counterpart : Finding Severity}
    (same : finding.lower = counterpart.lower) (category : Category) (file other : ChangedFile) :
    SameButCase file other (finding.toIssue category file.filename)
      (counterpart.toIssue category other.filename) := by
  simp only [Finding.lower, Finding.mk.injEq] at same
  obtain ⟨severity, line, message, suggestion⟩ := same
  exact ⟨rfl, severity, congrArg (Option.map Int.ofNat) line, suggestion, message, rfl, rfl⟩

variable {file other : ChangedFile}

theorem sameButCase_reported? {text counterpart : String} (contents : file.contents = some text)
    (contentsToo : other.contents = some counterpart)
    (same : text.toLower = counterpart.toLower)
    (named : hasExtension [".tsx", ".jsx"] file.filename =
      hasExtension [".tsx", ".jsx"] other.filename) (inTables : row ∈ tableRows) :
    Option.Rel (SameButCase file other) (reported? file row) (reported? other row) := by
  rw [reported?_eq_finding? contents inTables, reported?_eq_finding? contentsToo inTables]
  rw [← String.toList_inj, Text.toList_toLower, Text.toList_toLower] at same
  -- In lower case the two texts are one, and so is what is found in it.
  have first := findSome?_lower named.symm inTables text.toList
  rw [same, findSome?_lower rfl inTables] at first
  generalize row.2.parts.findSome? (Rule.partFinding? other.filename _) = there at first ⊢
  generalize row.2.parts.findSome? (Rule.partFinding? file.filename _) = here at first ⊢
  cases here with
  | none =>
    cases there with
    | none => exact .none
    | some => cases first
  | some finding =>
    cases there with
    | none => cases first
    | some counterpart =>
      exact .some (sameButCase_toIssue (Option.some.inj first).symm row.1 file other)

theorem text?_isSome_congr
    (contents : file.contents.map String.toLower = other.contents.map String.toLower) :
    file.text?.isSome = other.text?.isSome := by
  have isEmpty_toLower (text : String) : text.toLower.isEmpty = text.isEmpty := by
    rw [Bool.eq_iff_iff, String.isEmpty_iff, String.isEmpty_iff, ← String.toList_eq_nil_iff,
      ← String.toList_eq_nil_iff, Text.toList_toLower, List.map_eq_nil_iff]
  have lowered (contents : Option String) :
      (contents.filter (!·.isEmpty)).isSome =
        ((contents.map String.toLower).filter (!·.isEmpty)).isSome := by
    cases contents with
    | none => rfl
    | some text =>
      rw [Option.map_some, Option.filter_some, Option.filter_some, isEmpty_toLower]
      split <;> rfl
  rw [ChangedFile.text?, ChangedFile.text?, lowered, contents, ← lowered]

/-- Files whose contents differ in the case of letters only, and whose names both
are or both are not those of scripts with markup, have the same issues in the
same order, up to the case of letters in messages. Neither status nor patch
counts. -/
theorem sameButCase_allIssues
    (contents : file.contents.map String.toLower = other.contents.map String.toLower)
    (named : hasExtension [".tsx", ".jsx"] file.filename =
      hasExtension [".tsx", ".jsx"] other.filename) :
    ∃ issues counterparts, allIssues file = .ok issues ∧ allIssues other = .ok counterparts ∧
      List.Forall₂ (SameButCase file other) issues counterparts := by
  refine ⟨_, _, allIssues_eq file, allIssues_eq other, ?_⟩
  rw [tableIssues, tableIssues, text?_isSome_congr contents]
  split
  · next hasText =>
    obtain ⟨counterpart, found⟩ := Option.isSome_iff_exists.mp hasText
    have contentsToo := (ChangedFile.text?_eq_some.mp found).1
    rw [contentsToo, Option.map_some] at contents
    obtain ⟨text, has, same⟩ := Option.map_eq_some_iff.mp contents
    refine List.rel_filterMap (R := fun row counterpart => row = counterpart ∧ row ∈ tableRows)
      ?_ (List.forall₂_same.mpr fun row inTables => ⟨rfl, inTables⟩)
    rintro row _ ⟨rfl, inTables⟩
    exact sameButCase_reported? has contentsToo same named inTables
  · exact .nil

theorem sameButCase_allIssues_shouted :
    let quiet : ChangedFile := ⟨"a.tsx", .added, none, some "import 'lodash'\n<img src=a>"⟩
    let loud : ChangedFile := ⟨"b.jsx", .removed, some "@@", some "Import 'Lodash'\n<IMG src=a>"⟩
    quiet.contents.map String.toLower = loud.contents.map String.toLower ∧
      hasExtension [".tsx", ".jsx"] quiet.filename = hasExtension [".tsx", ".jsx"] loud.filename ∧
      ∃ issues counterparts, allIssues quiet = .ok issues ∧ allIssues loud = .ok counterparts ∧
        issues.map (·.message) =
          ["Found 1 img tag(s) without alt attribute",
            "Importing heavy libraries: import 'lodash",
            "Images without lazy loading detected"] ∧
        List.Forall₂ (SameButCase quiet loud) issues counterparts := by
  intro quiet loud
  have contents : quiet.contents.map String.toLower = loud.contents.map String.toLower := by
    refine congrArg some (String.toList_inj.mp ?_)
    rw [Text.toList_toLower, Text.toList_toLower]
    decide
  have named : hasExtension [".tsx", ".jsx"] quiet.filename =
      hasExtension [".tsx", ".jsx"] loud.filename := by decide
  obtain ⟨issues, counterparts, found, foundToo, same⟩ := sameButCase_allIssues contents named
  have messages : (allIssues quiet).map (·.map (·.message)) =
      .ok ["Found 1 img tag(s) without alt attribute",
        "Importing heavy libraries: import 'lodash", "Images without lazy loading detected"] := by
    decide +kernel
  rw [found] at messages
  exact ⟨contents, named, issues, counterparts, found, foundToo, Except.ok.inj messages, same⟩

end PatchReview
