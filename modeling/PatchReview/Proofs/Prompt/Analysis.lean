import PatchReview.Proofs.Analyzer.BuiltIn
import PatchReview.Proofs.Pattern.Taken
import PatchReview.Proofs.Prompt.Reading

/-!
# Prompts on what an analysis finds

The messages of the tables are single lines, and none reads like one with a
line number: what they quote of a file are matches, of which a pattern tells
beforehand what they hold and end in. So a prompt on the issues of an analysis
can be read back (`build_faithful`).
-/

namespace PatchReview

open Prompt (IsPlain)

-- ---------------------------------------------------------------------------
-- Messages
-- ---------------------------------------------------------------------------

/-- Whether a piece stands for no line feed, given the pattern of its rule. -/
def TemplatePiece.keepsLine (p : Pattern) : TemplatePiece OuterLayout → Bool
  | .text given => !given.toList.contains '\n'
  | .field given => given.source == .count || !p.mayHold '\n'
  | .fault _ => true

def TemplatePiece.endsOpen (p : Pattern) : TemplatePiece OuterLayout → Bool
  | .text given => given.toList.getLast?.any (· != ')')
  | .field given => (given.source == .all || given.source == .sample) && !p.mayBeEmpty &&
      !p.mayEndIn ')'
  | .fault _ => false

/-- Whether a message ends in a count in brackets. -/
def Template.isTally : Template → Bool
  | [.text before, .field ⟨.count, [], none, .plain []⟩, .text after] =>
    " (".toList.isSuffixOf before.toList && after == ")"
  | _ => false

def isSuggestion (suggestion : Option String) : Bool :=
  suggestion.all fun text => !text.isEmpty && !text.toList.contains '\n'

def PatternRule.writesPlainly (rule : PatternRule σ) : Bool :=
  decide (0 < rule.minCount) && rule.message.all (·.keepsLine rule.pattern) &&
    (rule.message.getLast?.any (·.endsOpen rule.pattern) || rule.message.isTally) &&
    isSuggestion rule.suggestion

def HeadingRule.writesPlainly (rule : HeadingRule σ) : Bool :=
  !rule.message.toList.contains '\n' && isSuggestion rule.suggestion

theorem writesPlainly_of_mem_tableRows (h : row ∈ tableRows) (hp : part ∈ row.2.parts) :
    Sum.elim PatternRule.writesPlainly HeadingRule.writesPlainly part = true := by
  have all : ∀ category, ((rulesFor category).all fun rule => rule.parts.all
      (Sum.elim PatternRule.writesPlainly HeadingRule.writesPlainly)) = true := by
    intro category
    cases category <;> decide +kernel
  obtain ⟨category, -, inCategory⟩ := List.mem_flatMap.mp h
  obtain ⟨rule, listed, rfl⟩ := List.mem_map.mp inCategory
  exact List.all_eq_true.mp (List.all_eq_true.mp (all category) rule listed) part hp

section
variable {p : Pattern} {found : List (List Char)} (taken : ∀ text ∈ found, p.Takes text)

theorem toList_joinTexts (texts : List (List Char)) :
    (joinTexts texts).toList = [',', ' '].intercalate texts := by
  simp [joinTexts, Function.comp_def]

include taken

theorem noLineFeed_joinTexts (h : p.mayHold '\n' = false) : '\n' ∉ (joinTexts found).toList := by
  intro listed
  rw [toList_joinTexts] at listed
  obtain between | ⟨text, inside, listed⟩ := Prompt.mem_of_mem_intercalate listed
  · revert between
    decide
  · rw [(taken text inside).holds _ listed] at h
    cases h

theorem TemplatePiece.noLineFeed_shown {piece : TemplatePiece OuterLayout}
    (h : piece.keepsLine p = true) : '\n' ∉ piece.shown (PatternRule.matchedTexts found) := by
  cases piece with
  | fault => exact List.not_mem_nil
  | text given => simpa [keepsLine, shown] using h
  | field given =>
    obtain ⟨source, steps, conversion, layout⟩ := given
    cases source with
    | fault => exact List.not_mem_nil
    | count =>
      intro listed
      have digit := Nat.isDigit_of_mem_toDigits (by decide) (by decide) listed
      cases digit
    | all => exact noLineFeed_joinTexts taken (by simpa [keepsLine] using h)
    | sample =>
      exact noLineFeed_joinTexts (fun text inside => taken text (List.mem_of_mem_take inside))
        (by simpa [keepsLine] using h)

theorem getLast?_joinTexts (matched : found ≠ []) (nonempty : p.mayBeEmpty = false)
    (h : p.mayEndIn ')' = false) :
    ∃ c, (joinTexts found).toList.getLast? = some c ∧ c ≠ ')' := by
  obtain ⟨before, last, rfl⟩ := (List.eq_nil_or_concat' found).resolve_left matched
  have allowed := taken last (by simp)
  have hasEnd : last ≠ [] := fun empty => by simp [allowed.empty empty] at nonempty
  refine ⟨last.getLast hasEnd, ?_, fun bracket => ?_⟩
  · rw [toList_joinTexts, Prompt.getLast?_intercalate hasEnd, List.getLast?_eq_some_getLast]
  · rw [allowed.ends ')' (by rw [List.getLast?_eq_some_getLast hasEnd, bracket]; rfl)] at h
    cases h

theorem TemplatePiece.getLast?_shown {piece : TemplatePiece OuterLayout}
    (h : piece.endsOpen p = true) (matched : found ≠ []) :
    ∃ c, (piece.shown (PatternRule.matchedTexts found)).getLast? = some c ∧ c ≠ ')' := by
  cases piece with
  | fault => cases h
  | text given =>
    obtain ⟨c, ends, other⟩ := (Option.any_eq_true _ _).mp h
    exact ⟨c, ends, by simpa using other⟩
  | field given =>
    obtain ⟨source, steps, conversion, layout⟩ := given
    cases source with
    | fault | count => simp [endsOpen] at h
    | all =>
      have ends : p.mayBeEmpty = false ∧ p.mayEndIn ')' = false := by simpa [endsOpen] using h
      exact getLast?_joinTexts taken matched ends.1 ends.2
    | sample =>
      have ends : p.mayBeEmpty = false ∧ p.mayEndIn ')' = false := by simpa [endsOpen] using h
      exact getLast?_joinTexts (fun text inside => taken text (List.mem_of_mem_take inside))
        (by simpa using matched) ends.1 ends.2

end

theorem unmarked_of_getLast? {message : String} (h : message.toList.getLast? = some c)
    (other : c ≠ ')') (before : String) (number : Int) :
    message ≠ before ++ s!" (line {number})" := by
  rintro rfl
  have ends : (Prompt.lineMark (some number)).getLast? = some ')' := by
    rw [Prompt.lineMark, ← List.cons_append, ← List.append_assoc, List.getLast?_append]
    rfl
  rw [Prompt.eq_append_lineMark, List.getLast?_append, ends] at h
  exact other (Option.some.inj h).symm

theorem unmarked_of_tally {message : String} {first : List Char} {count : Nat}
    (h : message.toList = first ++ ' ' :: '(' :: (Nat.toDigits 10 count ++ [')']))
    (before : String) (number : Int) : message ≠ before ++ s!" (line {number})" := by
  rintro rfl
  have noBlank : ' ' ∉ '(' :: (Nat.toDigits 10 count ++ [')']) := by
    have digits : ' ' ∉ Nat.toDigits 10 count := fun listed => by
      cases Nat.isDigit_of_mem_toDigits (by decide) (by decide) listed
    simp [digits]
  have noBlankToo : ' ' ∉ number.repr.toList ++ ")".toList := by
    simpa using Prompt.notMem_repr (by decide) (by decide) number
  rw [Prompt.eq_append_lineMark, Prompt.lineMark, ← List.append_assoc] at h
  obtain ⟨-, words⟩ := append_cons_inj_of_notMem_right noBlankToo noBlank h
  have opens : '(' ∈ number.repr.toList := by
    have listed : '(' ∈ number.repr.toList ++ ")".toList := words ▸ List.mem_cons_self
    simpa using listed
  exact Prompt.notMem_repr (by decide) (by decide) number opens

-- ---------------------------------------------------------------------------
-- Rules
-- ---------------------------------------------------------------------------

theorem suggestion_of_isSuggestion (h : isSuggestion suggestion = true) :
    ∀ text ∈ suggestion, text ≠ "" ∧ '\n' ∉ text.toList := by
  rintro text rfl
  simpa [isSuggestion] using h

theorem Template.getLast?_shown {message : Template} {p : Pattern} {found : List (List Char)}
    (h : message.getLast?.any (·.endsOpen p) = true) (taken : ∀ text ∈ found, p.Takes text)
    (matched : found ≠ []) :
    ∃ c, (message.flatMap (·.shown (PatternRule.matchedTexts found))).getLast? = some c ∧
      c ≠ ')' := by
  obtain ⟨piece, last, opened⟩ := (Option.any_eq_true _ _).mp h
  obtain ⟨before, rfl⟩ := List.getLast?_eq_some_iff.mp last
  obtain ⟨c, ends, other⟩ := TemplatePiece.getLast?_shown taken opened matched
  refine ⟨c, ?_, other⟩
  rw [List.flatMap_append, List.flatMap_singleton, List.getLast?_append, ends]
  rfl

theorem Template.shown_of_isTally {message : Template} (h : message.isTally = true)
    (texts : MatchedTexts) :
    ∃ first, message.flatMap (·.shown texts) =
      first ++ ' ' :: '(' :: (Nat.toDigits 10 texts.count ++ [')']) := by
  unfold isTally at h
  split at h
  · next before after =>
    rw [Bool.and_eq_true, beq_iff_eq] at h
    obtain ⟨first, begins⟩ := List.isSuffixOf_iff_suffix.mp h.1
    refine ⟨first, ?_⟩
    simp [TemplatePiece.shown, TemplateSource.shown, ← begins, h.2]
  · cases h

theorem PatternRule.isPlain_finding {rule : PatternRule Severity} (h : rule.writesPlainly = true)
    (named : '\n' ∉ filename.toList) (hf : rule.finding? filename text = some finding)
    (category : Category) : IsPlain (finding.toIssue category filename) := by
  simp only [writesPlainly, Bool.and_eq_true, decide_eq_true_eq] at h
  obtain ⟨⟨⟨several, lines⟩, ends⟩, suggestion⟩ := h
  have taken : ∀ part ∈ rule.found text, rule.pattern.Takes part := by
    intro part listed
    obtain ⟨m, found, rfl⟩ := List.mem_map.mp listed
    exact Pattern.takes_of_mem_findAll found
  unfold finding? at hf
  split at hf
  · next fires =>
    obtain rfl := Option.some.inj hf
    have matched : rule.found text ≠ [] := by
      intro none
      simp [PatternRule.fires, none] at fires
      omega
    refine ⟨named, ?_, suggestion_of_isSuggestion suggestion, fun _ => ?_⟩
    · rw [Finding.toIssue, String.toList_ofList]
      intro listed
      obtain ⟨piece, inside, listed⟩ := List.mem_flatMap.mp listed
      exact TemplatePiece.noLineFeed_shown taken (List.all_eq_true.mp lines piece inside) listed
    · obtain opened | tally := (Bool.or_eq_true ..).mp ends
      · obtain ⟨c, last, other⟩ := Template.getLast?_shown opened taken matched
        exact unmarked_of_getLast? (by rwa [Finding.toIssue, String.toList_ofList]) other
      · obtain ⟨first, shown⟩ := Template.shown_of_isTally tally (matchedTexts (rule.found text))
        exact unmarked_of_tally (by rw [Finding.toIssue, String.toList_ofList, shown])
  · cases hf

theorem HeadingRule.isPlain_finding {rule : HeadingRule Severity} (h : rule.writesPlainly = true)
    (named : '\n' ∉ filename.toList) (hf : rule.finding? text = some finding)
    (category : Category) : IsPlain (finding.toIssue category filename) := by
  obtain ⟨skip, -, rfl⟩ := Option.map_eq_some_iff.mp hf
  rw [writesPlainly, Bool.and_eq_true] at h
  exact ⟨named, by simpa [Finding.toIssue] using h.1, suggestion_of_isSuggestion h.2, nofun⟩

theorem isPlain_of_mem_tableIssues {file : ChangedFile} (named : '\n' ∉ file.filename.toList)
    (h : issue ∈ tableIssues file) : IsPlain issue := by
  unfold tableIssues at h
  split at h
  · next hasText =>
    obtain ⟨text, found⟩ := Option.isSome_iff_exists.mp hasText
    have contents := (ChangedFile.text?_eq_some.mp found).1
    obtain ⟨row, inTables, reported⟩ := List.mem_filterMap.mp h
    rw [reported?_eq_finding? contents inTables] at reported
    obtain ⟨finding, finds, rfl⟩ := Option.map_eq_some_iff.mp reported
    obtain ⟨part, listed, finds⟩ := List.exists_of_findSome?_eq_some finds
    have plainly := writesPlainly_of_mem_tableRows inTables listed
    cases part with
    | inl rule => exact rule.isPlain_finding plainly named finds row.1
    | inr rule => exact rule.isPlain_finding plainly named finds row.1
  · cases h

-- ---------------------------------------------------------------------------
-- Prompts
-- ---------------------------------------------------------------------------

namespace Prompt

/-- A prompt on plain issues and on files whose names are single lines tells the
names and statuses of the files and the issues of each file, in their order.
The issues of an analysis of such files are plain. -/
theorem build_faithful :
    (∀ issues others files otherFiles,
      (∀ issue ∈ issues, IsPlain issue) → (∀ issue ∈ others, IsPlain issue) →
      (∀ file ∈ files, '\n' ∉ file.filename.toList) →
      (∀ file ∈ otherFiles, '\n' ∉ file.filename.toList) →
      build issues files = build others otherFiles →
      files.map (fun file => (file.filename, file.status)) =
          otherFiles.map (fun file => (file.filename, file.status)) ∧
        groupByFile issues = groupByFile others) ∧
    (∀ issues, groupByFile issues =
      (issues.map (·.file)).eraseDups.map fun file => (file, issues.filter (·.file = file))) ∧
    ∀ pool files session, (∀ file ∈ files, '\n' ∉ file.filename.toList) →
      ∃ issues, ((analyzeFiles pool Analyzer.builtIn files).runOn session).1 = .ok issues ∧
        ∀ issue ∈ issues, IsPlain issue := by
  refine ⟨?_, groupByFile_eq, ?_⟩
  · intro issues others files otherFiles hi ho hf hof same
    exact groupByFile_eq_of_build_eq hi ho hf hof same
  · intro pool files session named
    refine ⟨files.flatMap tableIssues, by rw [runOn_analyzeFiles], fun issue found => ?_⟩
    obtain ⟨file, listed, found⟩ := List.mem_flatMap.mp found
    exact isPlain_of_mem_tableIssues (named file listed) found

/-- Issues in the order of their files, and a prompt on them in another order. -/
theorem build_faithful_regrouped :
    let marked : Issue := ⟨.security, .high, "a`.js", some 3, "Use of `x` (line 2)", none⟩
    let apart : Issue := ⟨.performance, .low, "b.js", none, "Slow` (added)`", some "### `a`.js`"⟩
    let later : Issue := ⟨.security, .low, "a`.js", none, "- security (low):", some "- (none)"⟩
    let file : ChangedFile := ⟨"a`.js", .added, some "@@", some "eval(1)"⟩
    (∀ issue ∈ [marked, apart, later], IsPlain issue) ∧ '\n' ∉ file.filename.toList ∧
      build [marked, apart, later] [file] =
        build [marked, later, apart] [{ file with patch := none }] ∧
      groupByFile [marked, apart, later] = groupByFile [marked, later, apart] ∧
      ∃ issues, ((analyzeFiles (.inOrder 1) Analyzer.builtIn [file]).runOn (.ofReplies [])).1 =
          .ok issues ∧ ∀ issue ∈ issues, IsPlain issue := by
  intro marked apart later file
  have isMarked : IsPlain marked :=
    ⟨by decide, by decide, nofun, nofun⟩
  have isApart : IsPlain apart := by
    refine ⟨by decide, by decide, ?_, fun _ => unmarked_of_getLast? (c := '`') (by decide) (by decide)⟩
    rintro text ⟨rfl⟩
    decide
  have isLater : IsPlain later := by
    refine ⟨by decide, by decide, ?_, fun _ => unmarked_of_getLast? (c := ':') (by decide) (by decide)⟩
    rintro text ⟨rfl⟩
    decide
  have plain : ∀ issue ∈ [marked, apart, later], IsPlain issue := by
    simp [isMarked, isApart, isLater]
  have plainToo : ∀ issue ∈ [marked, later, apart], IsPlain issue := by
    simp [isMarked, isApart, isLater]
  have named : ∀ listed ∈ [file], '\n' ∉ listed.filename.toList := by decide
  have same : build [marked, apart, later] [file] =
      build [marked, later, apart] [{ file with patch := none }] := rfl
  obtain ⟨faithful, -, analysis⟩ := build_faithful
  exact ⟨plain, by decide, same,
    (faithful _ _ [file] [{ file with patch := none }] plain plainToo named (by decide) same).2,
    analysis _ [file] _ named⟩

end Prompt

end PatchReview
