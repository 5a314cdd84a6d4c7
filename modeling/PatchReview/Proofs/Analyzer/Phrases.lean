import PatchReview.Proofs.Analyzer.Direct
import PatchReview.Proofs.Pattern.Words

/-!
# Rules that look for words

Two rules look for a few words each. The calls that block cannot begin inside each other, so
all of them are listed. Of the queries one ends in the letter that all begin with: a query
that begins in the last letter of such a one is left out if that one is listed, and only then
(`listed_queries_and_calls`).
-/

namespace PatchReview

open Text (Begins Spells overlaps)

/-- The text is a query for parts of a page. One for all parts of a kind does not count. -/
def IsQuery (taken after : List Char) : Prop :=
  Spells taken "document.getElementById" ∨ Spells taken "document.getElementsBy" ∨
    Spells taken "document.querySelector" ∧ ¬ Begins after "All"

instance : Decidable (IsQuery taken after) := inferInstanceAs (Decidable (_ ∨ _))

def queryWords : List String :=
  ["document.getElementById", "document.getElementsBy", "document.querySelector"]

def blockingWords : List String :=
  ["localStorage.getItem", "sessionStorage.getItem", "document.write", "alert(", "confirm(",
    "prompt("]

def IsBlockingCall (taken _ : List Char) : Prop := ∃ word ∈ blockingWords, Spells taken word

variable {text : List Char} {m n : Match}

-- ---------------------------------------------------------------------------
-- Queries
-- ---------------------------------------------------------------------------

/-- A query begins inside another one only in the last letter of a query by name. -/
theorem overlaps_queryWords : ∀ first ∈ queryWords, ∀ second ∈ queryWords,
    ∀ skipped ∈ overlaps first second,
      skipped = 0 ∧ first = second ∨ first = "document.getElementById" ∧ skipped = 22 := by
  decide +kernel

theorem words_repeatedDomQuery : repeatedDomQuery.pattern.Words queryWords IsQuery where
  spans_iff before taken after := by
    simp only [repeatedDomQuery, Pattern.spans_alt, Pattern.spans_literal, Pattern.spans_seq,
      Pattern.spans_notAhead, IsQuery, Text.begins_iff]
    refine or_congr_right (or_congr_right ?_)
    constructor
    · rintro ⟨one, two, rfl, spells, rfl, unseen⟩
      refine ⟨by simpa using spells, ?_⟩
      rintro ⟨seen, rest, whole, all⟩
      exact unseen seen rest whole all
    · rintro ⟨spells, unseen⟩
      exact ⟨taken, [], by simp, spells, rfl, fun seen rest whole all =>
        unseen ⟨seen, rest, whole, all⟩⟩
  spells taken after is := by
    rcases is with spells | spells | ⟨spells, -⟩
    · exact ⟨_, by decide, spells⟩
    · exact ⟨_, by decide, spells⟩
    · exact ⟨_, by decide, spells⟩
  filled := by decide
  apart first hf second hs meets := by
    rcases overlaps_queryWords first hf second hs 0 meets with ⟨-, same⟩ | ⟨-, other⟩
    · exact same
    · cases other

theorem mem_queries_iff :
    m ∈ repeatedDomQuery.pattern.findAll text ↔
      m.Occurs IsQuery text ∧ ∀ n ∈ repeatedDomQuery.pattern.findAll text,
        Spells n.text "document.getElementById" → n.stop ≠ m.position + 1 := by
  refine words_repeatedDomQuery.mem_findAll_iff.trans (and_congr_right fun occurs => ?_)
  constructor
  · intro free n listed named meets
    have length : n.text.length = 23 := named.length_eq
    have earlier : n.position < m.position := by
      simp only [Match.stop, Match.position] at *
      omega
    have := free n listed earlier
    omega
  · intro free n listed earlier
    refine Nat.not_lt.mp fun inside => ?_
    obtain ⟨first, hf, second, hs, named, -, meets⟩ := words_repeatedDomQuery.exists_overlap
      (words_repeatedDomQuery.occurs_of_mem listed) occurs (Nat.le_of_lt earlier) inside
    rcases overlaps_queryWords first hf second hs _ meets with ⟨same, -⟩ | ⟨rfl, place⟩
    · omega
    · have length : n.text.length = 23 := named.length_eq
      refine free n listed named ?_
      simp only [Match.stop, Match.position] at *
      omega

theorem issue?_repeatedDomQuery {file : ChangedFile} (contents : file.contents = some source)
    (category : Category) :
    let queries := repeatedDomQuery.pattern.findAll source.toList
    (Rule.pattern repeatedDomQuery).issue? category file =
      .ok (if 6 ≤ queries.length then
        some ⟨category, .low, file.filename, none,
          "Multiple DOM queries detected (" ++ toString queries.length ++ ")",
          some "Cache DOM references and consider using more efficient selectors"⟩
      else none) := by
  intro queries
  have lists : repeatedDomQuery.Lists := ⟨rfl, rfl, rfl, by decide⟩
  have length : (repeatedDomQuery.found source.toList).length = queries.length := List.length_map _
  have said : String.ofList (repeatedDomQuery.message.flatMap
      (·.shown (PatternRule.matchedTexts (repeatedDomQuery.found source.toList)))) =
        "Multiple DOM queries detected (" ++ toString queries.length ++ ")" := by
    rw [← String.toList_inj, ← length]
    simp [repeatedDomQuery, TemplatePiece.shown, TemplatePiece.count, TemplatePiece.ofSource,
      TemplateSource.shown, PatternRule.matchedTexts]
  have enough : repeatedDomQuery.minCount ≤ (queries.length : Int) ↔ 6 ≤ queries.length := by
    simp only [repeatedDomQuery]
    omega
  rw [lists.issue?_eq contents, said, length]
  simp only [enough]
  rfl

-- ---------------------------------------------------------------------------
-- Calls
-- ---------------------------------------------------------------------------

theorem overlaps_blockingWords : ∀ first ∈ blockingWords, ∀ second ∈ blockingWords,
    ∀ skipped ∈ overlaps first second, skipped = 0 ∧ first = second := by
  decide +kernel

theorem words_blockingOperation :
    blockingOperation.pattern.Words blockingWords IsBlockingCall where
  spans_iff before taken after := Pattern.spans_alternatives (List.cons_ne_nil _ _)
  spells taken after is := is
  filled := by decide
  apart first hf second hs meets := (overlaps_blockingWords first hf second hs 0 meets).2

theorem mem_calls_iff :
    m ∈ blockingOperation.pattern.findAll text ↔ m.Occurs IsBlockingCall text :=
  words_blockingOperation.mem_findAll_iff_of_apart fun first hf second hs skipped meets =>
    (overlaps_blockingWords first hf second hs skipped meets).1

theorem issue?_blockingOperation {file : ChangedFile} (contents : file.contents = some source)
    (category : Category) :
    let calls := blockingOperation.pattern.findAll source.toList
    (Rule.pattern blockingOperation).issue? category file =
      .ok (if calls = [] then none
        else some ⟨category, .low, file.filename, none,
          "Found potentially blocking synchronous operations: " ++
            joinTexts ((calls.map (·.text)).take 3),
          some "Consider using asynchronous alternatives where possible"⟩) := by
  intro calls
  have lists : blockingOperation.Lists := ⟨rfl, rfl, rfl, by decide⟩
  have said : String.ofList (blockingOperation.message.flatMap
      (·.shown (PatternRule.matchedTexts (blockingOperation.found source.toList)))) =
        "Found potentially blocking synchronous operations: " ++
          joinTexts ((calls.map (·.text)).take 3) := by
    rw [← String.toList_inj]
    simp [blockingOperation, TemplatePiece.shown, TemplatePiece.sample, TemplatePiece.ofSource,
      TemplateSource.shown, PatternRule.matchedTexts, PatternRule.found, calls]
  rw [lists.issue?_eq_of_single rfl contents, said]
  simp only [PatternRule.found, List.map_eq_nil_iff]
  rfl

-- ---------------------------------------------------------------------------
-- Both rules
-- ---------------------------------------------------------------------------

/-- Queries and calls are listed by their places, each once. A query is listed unless it begins
in the last letter of a listed query by name; six of them are reported, with their number. Every
call is listed, and of those there are the first three are shown as they are spelled. -/
theorem listed_queries_and_calls {file : ChangedFile} (contents : file.contents = some source)
    (category : Category) :
    let queries := repeatedDomQuery.pattern.findAll source.toList
    let calls := blockingOperation.pattern.findAll source.toList
    (queries.Pairwise (·.position < ·.position) ∧
      (∀ m, m ∈ queries ↔ m.Occurs IsQuery source.toList ∧
        ∀ n ∈ queries, Spells n.text "document.getElementById" → n.stop ≠ m.position + 1) ∧
      (Rule.pattern repeatedDomQuery).issue? category file =
        .ok (if 6 ≤ queries.length then
          some ⟨category, .low, file.filename, none,
            "Multiple DOM queries detected (" ++ toString queries.length ++ ")",
            some "Cache DOM references and consider using more efficient selectors"⟩
        else none)) ∧
    calls.Pairwise (·.position < ·.position) ∧
      (∀ m, m ∈ calls ↔ m.Occurs IsBlockingCall source.toList) ∧
      (Rule.pattern blockingOperation).issue? category file =
        .ok (if calls = [] then none
          else some ⟨category, .low, file.filename, none,
            "Found potentially blocking synchronous operations: " ++
              joinTexts ((calls.map (·.text)).take 3),
            some "Consider using asynchronous alternatives where possible"⟩) := by
  intro queries calls
  refine ⟨⟨?_, fun m => mem_queries_iff, issue?_repeatedDomQuery contents category⟩, ?_,
    fun m => mem_calls_iff, issue?_blockingOperation contents category⟩
  · exact words_repeatedDomQuery.pairwise_findAll source.toList
  · exact words_blockingOperation.pairwise_findAll source.toList

/-- Three queries by name that run together, the second of which is left out, and four calls. -/
theorem listed_queries_and_calls_chain :
    let text := "document.getElementByIdocument.getElementByIdocument.getElementById".toList ++
      " ALERT(prompt(alert(confirm(".toList
    let source := String.ofList text
    let file : ChangedFile := ⟨"a.js", .modified, none, some source⟩
    let queries := repeatedDomQuery.pattern.findAll text
    file.contents = some source ∧
      Match.slice text 22 23 ∉ queries ∧ Match.slice text 44 23 ∈ queries ∧
      (Rule.pattern blockingOperation).issue? .performance file =
        .ok (some ⟨.performance, .low, "a.js", none,
          "Found potentially blocking synchronous operations: ALERT(, prompt(, alert(",
          some "Consider using asynchronous alternatives where possible"⟩) := by
  intro text source file queries
  have contents : file.contents = some source := rfl
  have whole : source.toList = text := String.toList_ofList
  obtain ⟨⟨-, listed, -⟩, -, -, shown⟩ := listed_queries_and_calls contents .performance
  rw [whole] at listed shown
  refine ⟨contents, fun second => ?_, ?_, ?_⟩
  · have first : Match.slice text 0 23 ∈ queries := by decide +kernel
    exact ((listed _).mp second).2 _ first (by decide) (by decide)
  · exact (listed _).mpr ⟨Match.occurs_slice (by decide), by decide +kernel⟩
  · rw [shown]
    decide +kernel

/-- Six queries, the second of which is not listed, so that nothing is reported. -/
theorem exists_query_not_listed :
    let text := "document.getElementByIdocument.querySelector".toList ++
      (List.replicate 4 " document.getElementsBy".toList).flatten
    let file : ChangedFile := ⟨"a.js", .modified, none, some (String.ofList text)⟩
    let places := [(0, 23), (22, 22), (45, 22), (68, 22), (91, 22), (114, 22)]
    let occurring := places.map fun place => Match.slice text place.1 place.2
    (6 ≤ occurring.length ∧ occurring.Pairwise (·.position < ·.position) ∧
      ∀ m ∈ occurring, m.Occurs IsQuery text) ∧
    Match.slice text 22 22 ∉ repeatedDomQuery.pattern.findAll text ∧
    (Rule.pattern repeatedDomQuery).issue? .performance file = .ok none := by
  intro text file places occurring
  have queries : ∀ place ∈ places, IsQuery ((text.drop place.1).take place.2)
      ((text.drop place.1).drop place.2) := by
    decide +kernel
  have five : (repeatedDomQuery.pattern.findAll text).map (·.position) = [0, 45, 68, 91, 114] := by
    decide +kernel
  refine ⟨⟨by decide, by decide +kernel, fun m listed => ?_⟩, fun listed => ?_, ?_⟩
  · obtain ⟨place, among, rfl⟩ := List.mem_map.mp listed
    exact Match.occurs_slice (queries place among)
  · have among := List.mem_map_of_mem (f := (·.position)) listed
    rw [five] at among
    exact absurd among (by decide +kernel)
  · have contents : file.contents = some (String.ofList text) := rfl
    have length := congrArg List.length five
    rw [List.length_map] at length
    rw [issue?_repeatedDomQuery contents, String.toList_ofList, length]
    rfl

end PatchReview
