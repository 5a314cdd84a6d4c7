import PatchReview.Proofs.Analyzer.Direct
import PatchReview.Proofs.Pattern.Longest
import PatchReview.Proofs.Pattern.Steps
import PatchReview.Proofs.Text.Place

/-!
# Imports of heavy libraries

The rule works line by line. A line has one match if a heavy library stands behind its first
import; the match goes on to the last such library (`heavyImport?_eq_some`). What stands on one
line has no part in the match of another one (`listed_imports`).
-/

namespace PatchReview

open Text (Begins Spells)

def heavyLibraries : List String := ["lodash", "moment", "jquery"]

def GoesOn (after : List Char) : Prop := after.head?.any (fun c => c == '/' || Text.isWord c) = true

/-- The text is the name of a heavy library, which does not go on. -/
def IsHeavy (library after : List Char) : Prop :=
  (∃ name ∈ heavyLibraries, Spells library name) ∧ ¬ GoesOn after

def BeginsHeavy (text : List Char) : Prop :=
  (∃ name ∈ heavyLibraries, Begins text name) ∧ ¬ GoesOn (text.drop 6)

instance : DecidablePred GoesOn := fun _ => inferInstanceAs (Decidable (_ = true))

instance : DecidablePred BeginsHeavy := fun _ => inferInstanceAs (Decidable (_ ∧ _))

/-- A line from its first import to the end of the last heavy library behind that. -/
def heavyImport? (line : List Char) : Option (List Char) := do
  let (_, imported) ← splitFirst? (Begins · "import") line
  let (between, named) ← splitLast? BeginsHeavy (imported.drop 6)
  return imported.take 6 ++ (between ++ named.take 6)

/-- A line that imports a heavy library, at its first import and the last library behind that. -/
structure HeavyImport (line : List Char) where
  lead : List Char
  keyword : List Char
  between : List Char
  library : List Char
  rest : List Char
  imports : Spells keyword "import"
  heavy : IsHeavy library rest
  first : IsFirst (Begins · "import") line lead (keyword ++ (between ++ (library ++ rest)))
  last : IsLast BeginsHeavy (between ++ (library ++ rest)) between (library ++ rest)

def HeavyImport.text (found : HeavyImport line) : List Char :=
  found.keyword ++ (found.between ++ found.library)

variable {line before taken after keyword between library rest : List Char}

-- ---------------------------------------------------------------------------
-- Heavy libraries
-- ---------------------------------------------------------------------------

theorem length_of_mem_heavyLibraries : ∀ name ∈ heavyLibraries, name.toList.length = 6 := by
  decide

theorem IsHeavy.length_eq (h : IsHeavy library after) : library.length = 6 := by
  obtain ⟨⟨name, listed, spells⟩, -⟩ := h
  rw [spells.length_eq, length_of_mem_heavyLibraries name listed]

theorem IsHeavy.notMem (h : IsHeavy library after) : '\n' ∉ library := by
  obtain ⟨⟨name, listed, spells⟩, -⟩ := h
  have absent : ∀ name ∈ heavyLibraries, '\n' ∉ name.toList := by decide
  exact spells.notMem rfl (absent name listed)

theorem IsHeavy.begins (h : IsHeavy library rest) : BeginsHeavy (library ++ rest) := by
  obtain ⟨⟨name, listed, spells⟩, ends⟩ := h
  refine ⟨⟨name, listed, Text.begins_iff.mpr ⟨library, rest, rfl, spells⟩⟩, ?_⟩
  rwa [← length_of_mem_heavyLibraries name listed, ← spells.length_eq, List.drop_left]

theorem exists_isHeavy_of_begins (h : BeginsHeavy text) :
    ∃ library rest, text = library ++ rest ∧ IsHeavy library rest := by
  obtain ⟨⟨name, listed, begins⟩, ends⟩ := h
  obtain ⟨library, rest, rfl, spells⟩ := Text.begins_iff.mp begins
  rw [← length_of_mem_heavyLibraries name listed, ← spells.length_eq, List.drop_left] at ends
  exact ⟨library, rest, rfl, ⟨name, listed, spells⟩, ends⟩

-- ---------------------------------------------------------------------------
-- What stands on a line
-- ---------------------------------------------------------------------------

theorem heavyImport?_eq_some :
    heavyImport? line = some taken ↔ ∃ found : HeavyImport line, found.text = taken := by
  simp only [heavyImport?, Option.bind_eq_bind, Option.pure_def, Option.bind_eq_some_iff,
    Option.some.injEq, Prod.exists, splitFirst?_eq_some, splitLast?_eq_some]
  constructor
  · rintro ⟨lead, imported, first, between, named, last, rfl⟩
    obtain ⟨keyword, others, rfl, imports⟩ := Text.begins_iff.mp first.here
    obtain ⟨library, rest, rfl, heavy⟩ := exists_isHeavy_of_begins last.here
    have long : keyword.length = 6 := imports.length_eq
    rw [List.drop_left' long] at last
    obtain rfl := last.whole
    refine ⟨⟨lead, keyword, between, library, rest, imports, heavy, first, last⟩, ?_⟩
    rw [List.take_left' long, List.take_left' heavy.length_eq, HeavyImport.text]
  · rintro ⟨⟨lead, keyword, between, library, rest, imports, heavy, first, last⟩, rfl⟩
    have long : keyword.length = 6 := imports.length_eq
    refine ⟨lead, _, first, between, library ++ rest, ?_, ?_⟩
    · rwa [List.drop_left' long]
    · rw [List.take_left' long, List.take_left' heavy.length_eq, HeavyImport.text]

/-- A line has a match if a heavy library stands behind the first import. -/
theorem heavyImport?_ne_none :
    heavyImport? line ≠ none ↔
      ∃ lead keyword others, IsFirst (Begins · "import") line lead (keyword ++ others) ∧
        Spells keyword "import" ∧
        ∃ between library rest, others = between ++ (library ++ rest) ∧ IsHeavy library rest := by
  constructor
  · intro some
    obtain ⟨text, found⟩ := Option.ne_none_iff_exists'.mp some
    obtain ⟨found, -⟩ := heavyImport?_eq_some.mp found
    exact ⟨_, _, _, found.first, found.imports, _, _, _, rfl, found.heavy⟩
  · rintro ⟨lead, keyword, others, first, imports, between, library, rest, whole, heavy⟩ none
    have long : keyword.length = 6 := imports.length_eq
    simp only [heavyImport?, splitFirst?_eq_some.mpr first, Option.bind_eq_bind, Option.bind_some,
      Option.pure_def, List.drop_left' long, Option.bind_eq_none_iff] at none
    cases named : splitLast? BeginsHeavy others with
    | none => exact splitLast?_eq_none named whole heavy.begins
    | some parts => cases none parts named

-- ---------------------------------------------------------------------------
-- Matches of the pattern
-- ---------------------------------------------------------------------------

open Pattern CharSet

theorem goesOn_iff :
    GoesOn after ↔
      ∃ c rest, after = c :: rest ∧ (union (oneOf ['/']) word).has c = true := by
  cases after <;> simp [GoesOn, CharSet.has]

theorem spans_heavyLibrary :
    (sequence [anyOf heavyLibraries, notAhead (one (union (oneOf ['/']) word))]).Spans before taken
      after ↔ IsHeavy taken after := by
  have words {taken rest : List Char} : (anyOf heavyLibraries).Spans before taken rest ↔
      ∃ name ∈ heavyLibraries, Spells taken name := spans_alternatives (List.cons_ne_nil _ _)
  simp only [spans_sequence_cons, spans_sequence_nil, words, spans_notAhead, spans_one, IsHeavy,
    goesOn_iff]
  constructor
  · rintro ⟨library, _, rfl, named, _, _, rfl, ⟨rfl, ends⟩, rfl⟩
    refine ⟨by simpa using named, ?_⟩
    rintro ⟨c, rest, rfl, inSet⟩
    exact ends [c] rest rfl ⟨c, rfl, inSet⟩
  · rintro ⟨named, ends⟩
    refine ⟨taken, [], by simp, named, [], [], rfl, ⟨rfl, ?_⟩, rfl⟩
    rintro _ rest rfl ⟨c, rfl, inSet⟩
    exact ends ⟨c, rest, rfl, inSet⟩

theorem spans_heavyLibraryImport :
    heavyLibraryImport.pattern.Spans before taken after ↔
      ∃ keyword between library, taken = keyword ++ (between ++ library) ∧
        Spells keyword "import" ∧ '\n' ∉ between ∧ IsHeavy library after := by
  rw [heavyLibraryImport, spans_sequence_cons]
  refine exists_congr fun keyword => ?_
  simp only [spans_literal, spans_sequence_cons (p := many _), spans_many_noneOf]
  constructor
  · rintro ⟨_, rfl, imports, between, library, rfl, free, named⟩
    exact ⟨between, library, rfl, imports, free, spans_heavyLibrary.mp named⟩
  · rintro ⟨between, library, rfl, imports, free, heavy⟩
    exact ⟨_, rfl, imports, between, library, rfl, free, spans_heavyLibrary.mpr heavy⟩

theorem longestFirst_heavyLibraryImport : heavyLibraryImport.pattern.LongestFirst := by
  have six : (sequence [anyOf heavyLibraries,
      notAhead (one (union (oneOf ['/']) word))]).TakesExactly 6 :=
    fun _ _ _ spans => (spans_heavyLibrary.mp spans).length_eq
  exact ((longestFirst_many _).seq six).literal_seq "import"

theorem takesSome_heavyLibraryImport : heavyLibraryImport.pattern.TakesSome :=
  takesSome_of_mayBeEmpty (by decide)

-- ---------------------------------------------------------------------------
-- One line
-- ---------------------------------------------------------------------------

def EndsLine (after : List Char) : Prop := ∀ c ∈ after.head?, c = '\n'

theorem EndsLine.goesOn_append (ends : EndsLine after) : GoesOn (rest ++ after) ↔ GoesOn rest := by
  cases rest with
  | nil =>
    refine iff_of_false ?_ (by simp [GoesOn])
    cases after with
    | nil => simp [GoesOn]
    | cons c after =>
      obtain rfl := ends c rfl
      have sign : Text.isWord '\n' = false := by decide
      simp [GoesOn, sign]
  | cons c rest => simp [GoesOn]

theorem EndsLine.isHeavy_append (ends : EndsLine after) :
    IsHeavy library (rest ++ after) ↔ IsHeavy library rest := by
  rw [IsHeavy, ends.goesOn_append, IsHeavy]

theorem EndsLine.exists_left (ends : EndsLine after) (free : '\n' ∉ taken)
    (same : line ++ after = taken ++ left) :
    ∃ rest, line = taken ++ rest ∧ left = rest ++ after := by
  cases after with
  | nil => exact ⟨left, by simpa using same, by simp⟩
  | cons c others =>
    obtain rfl := ends c rfl
    exact exists_left_of_append free same

theorem EndsLine.exists_parts (ends : EndsLine after)
    (spans : heavyLibraryImport.pattern.Spans before taken left)
    (same : line ++ after = taken ++ left) :
    ∃ keyword between library rest, taken = keyword ++ (between ++ library) ∧
      line = keyword ++ (between ++ (library ++ rest)) ∧ Spells keyword "import" ∧
      IsHeavy library rest := by
  obtain ⟨keyword, between, library, rfl, imports, free, heavy⟩ :=
    spans_heavyLibraryImport.mp spans
  have plain : '\n' ∉ keyword := imports.notMem rfl (by decide)
  have stays : '\n' ∉ keyword ++ (between ++ library) := by simp [plain, free, heavy.notMem]
  obtain ⟨rest, rfl, rfl⟩ := ends.exists_left stays same
  exact ⟨keyword, between, library, rest, rfl, by simp, imports, ends.isHeavy_append.mp heavy⟩

theorem EndsLine.ends_eq_nil (ends : EndsLine after)
    (nothing : ∀ keyword between library rest, line = keyword ++ (between ++ (library ++ rest)) →
      Spells keyword "import" → ¬ IsHeavy library rest) :
    heavyLibraryImport.pattern.ends ⟨before, line ++ after⟩ = [] := by
  refine Pattern.ends_eq_nil.mpr fun taken left same spans => ?_
  obtain ⟨keyword, between, library, rest, -, whole, imports, heavy⟩ :=
    ends.exists_parts spans same
  exact nothing keyword between library rest whole imports heavy

/-- Behind any import on a line there is a library only if there is one behind the first. -/
theorem not_isHeavy_of_heavyImport?_eq_none (none : heavyImport? line = none)
    (whole : line = passed ++ (keyword ++ (between ++ (library ++ rest))))
    (imports : Spells keyword "import") : ¬ IsHeavy library rest := by
  intro heavy
  cases found : splitFirst? (Begins · "import") line with
  | none =>
    exact splitFirst?_eq_none found whole (Text.begins_iff.mpr ⟨_, _, rfl, imports⟩)
  | some parts =>
    obtain ⟨lead, imported⟩ := parts
    have first := splitFirst?_eq_some.mp found
    obtain ⟨written, others, rfl, spells⟩ := Text.begins_iff.mp first.here
    have earlier := first.first _ _ whole (Text.begins_iff.mpr ⟨_, _, rfl, imports⟩)
    have same : (lead ++ written) ++ others =
        (passed ++ keyword ++ between) ++ (library ++ rest) := by
      simpa using first.whole.symm.trans whole
    have long : (lead ++ written).length ≤ (passed ++ keyword ++ between).length := by
      have := spells.length_eq
      have := imports.length_eq
      simp only [List.length_append]
      omega
    obtain ⟨behind, follows⟩ := List.prefix_of_prefix_length_le ⟨others, same⟩ ⟨_, rfl⟩ long
    rw [← follows, List.append_assoc (lead ++ written)] at same
    exact heavyImport?_ne_none.mpr ⟨lead, written, others, first, spells, behind, library, rest,
      List.append_cancel_left same, heavy⟩ none

namespace HeavyImport

variable (shown : HeavyImport line) (ends : EndsLine after)

theorem line_eq : line = shown.lead ++ (shown.text ++ shown.rest) := by
  simpa [text] using shown.first.whole

theorem text_ne_nil : shown.text ≠ [] := by
  have some := List.ne_nil_of_length_eq_add_one shown.imports.length_eq
  simp [text, some]

include ends

theorem ends_lead (whole : shown.lead = passed ++ c :: left) :
    heavyLibraryImport.pattern.ends
      ⟨before, c :: left ++ (shown.text ++ (shown.rest ++ after))⟩ = [] := by
  have nothing : heavyLibraryImport.pattern.ends
      ⟨before, (c :: left ++ (shown.text ++ shown.rest)) ++ after⟩ = [] := by
    refine ends.ends_eq_nil fun written among named others parts spells _ => ?_
    have place : line = passed ++ (written ++ (among ++ (named ++ others))) :=
      shown.line_eq.trans (by rw [← parts, whole, List.append_assoc])
    have earlier := shown.first.first _ _ place (Text.begins_iff.mpr ⟨_, _, rfl, spells⟩)
    rw [whole, List.length_append, List.length_cons] at earlier
    omega
  simpa using nothing

theorem ends_rest (whole : shown.rest = passed ++ c :: left) :
    heavyLibraryImport.pattern.ends ⟨before, c :: left ++ after⟩ = [] := by
  refine ends.ends_eq_nil fun written among named others parts spells heavy => ?_
  have place : shown.between ++ (shown.library ++ shown.rest) =
      (shown.between ++ (shown.library ++ (passed ++ (written ++ among)))) ++
        (named ++ others) := by
    simp [whole, parts]
  have earlier := shown.last.last _ _ place heavy.begins
  have := shown.heavy.length_eq
  simp only [List.length_append] at earlier
  omega

theorem finds (free : '\n' ∉ line) :
    heavyLibraryImport.pattern.Finds before shown.text (shown.rest ++ after) := by
  refine longestFirst_heavyLibraryImport.finds takesSome_heavyLibraryImport
    (spans_heavyLibraryImport.mpr ?_) fun taken left same spans => ?_
  · rw [shown.first.whole] at free
    simp only [List.mem_append, not_or] at free
    exact ⟨shown.keyword, shown.between, shown.library, rfl, shown.imports, free.2.2.1,
      ends.isHeavy_append.mpr shown.heavy⟩
  · have onLine : (shown.text ++ shown.rest) ++ after = taken ++ left := by simpa using same
    obtain ⟨written, passed, named, others, rfl, whole, spells, heavy⟩ :=
      ends.exists_parts spans onLine
    have parts : shown.keyword ++ (shown.between ++ (shown.library ++ shown.rest)) =
        written ++ (passed ++ (named ++ others)) := by simpa [text] using whole
    have length := shown.imports.length_eq.trans spells.length_eq.symm
    obtain ⟨start, follows⟩ := List.append_inj parts length
    have earlier := shown.last.last _ _ follows heavy.begins
    have := shown.heavy.length_eq
    have := heavy.length_eq
    simp only [text, List.length_append]
    omega

end HeavyImport

variable {found : List Match}

/-- A scan goes over one line and finds its match, if there is one, and no other. -/
theorem exists_scans_line (ends : EndsLine after) (free : '\n' ∉ line)
    (later : heavyLibraryImport.pattern.Scans (line.reverse ++ before) after found) :
    ∃ others, heavyLibraryImport.pattern.Scans before (line ++ after) (others ++ found) ∧
      others.map (·.text) = (heavyImport? line).toList := by
  cases some : heavyImport? line with
  | none =>
    refine ⟨[], Scans.passes (fun passed c rest whole => ?_) later, rfl⟩
    refine ends.ends_eq_nil fun keyword between library others parts imports => ?_
    rw [parts] at whole
    exact not_isHeavy_of_heavyImport?_eq_none some whole imports
  | some text =>
    obtain ⟨shown, rfl⟩ := heavyImport?_eq_some.mp some
    have whole : line ++ after = shown.lead ++ (shown.text ++ (shown.rest ++ after)) :=
      (congrArg (· ++ after) shown.line_eq).trans (by simp)
    have behind : line.reverse = shown.rest.reverse ++ (shown.text.reverse ++ shown.lead.reverse) :=
      (congrArg List.reverse shown.line_eq).trans (by simp)
    rw [behind, List.append_assoc, List.append_assoc] at later
    rw [whole]
    refine ⟨[⟨⟨shown.lead.reverse ++ before, shown.text ++ (shown.rest ++ after)⟩, shown.text⟩],
      Scans.passes (fun passed c left lead => shown.ends_lead ends lead) ?_, rfl⟩
    refine Scans.take shown.text_ne_nil (shown.finds ends free) ?_
    exact Scans.passes (fun passed c left rest => shown.ends_rest ends rest) later

-- ---------------------------------------------------------------------------
-- All lines
-- ---------------------------------------------------------------------------

theorem exists_scans (before text : List Char) :
    ∃ found, heavyLibraryImport.pattern.Scans before text found ∧
      found.map (·.text) = (text.splitOn '\n').filterMap heavyImport? := by
  -- The text behind the first line is shorter.
  induction long : text.length using Nat.strongRecOn generalizing before text with
  | _ n ih =>
    simp only [List.filterMap_eq_flatMap_toList] at ih ⊢
    by_cases more : '\n' ∈ text
    · obtain ⟨line, rest, rfl, free⟩ := List.eq_append_cons_of_mem more
      obtain ⟨found, later, texts⟩ := ih rest.length (by simp [← long]; omega)
        ('\n' :: (line.reverse ++ before)) rest rfl
      have ends : EndsLine ('\n' :: rest) := by simp [EndsLine]
      have none :
          heavyLibraryImport.pattern.ends ⟨line.reverse ++ before, [] ++ '\n' :: rest⟩ = [] := by
        refine ends.ends_eq_nil fun keyword between library others whole imports => ?_
        obtain ⟨rfl, -⟩ := List.append_eq_nil_iff.mp whole.symm
        exact absurd imports (by decide)
      obtain ⟨others, run, first⟩ := exists_scans_line ends free (.pass none later)
      refine ⟨others ++ found, run, ?_⟩
      rw [List.splitOn_append_cons_self_of_not_mem free, List.map_append, first, texts,
        List.flatMap_cons]
    · obtain ⟨found, run, texts⟩ := exists_scans_line (by simp [EndsLine]) more
        (.done (text.reverse ++ before))
      refine ⟨found, by simpa using run, ?_⟩
      rw [List.splitOn_eq_singleton more, texts, List.flatMap_singleton]

theorem found_heavyLibraryImport (text : List Char) :
    heavyLibraryImport.found text = (text.splitOn '\n').filterMap heavyImport? := by
  obtain ⟨found, run, texts⟩ := exists_scans [] text
  rw [PatternRule.found, Pattern.findAll, run.scan_eq takesSome_heavyLibraryImport, texts]

theorem issue?_heavyLibraryImport {file : ChangedFile} (contents : file.contents = some source)
    (category : Category) :
    let imports := (source.toList.splitOn '\n').filterMap heavyImport?
    (Rule.pattern heavyLibraryImport).issue? category file =
      .ok (if imports = [] then none
        else some ⟨category, .medium, file.filename, none,
          "Importing heavy libraries: " ++ joinTexts imports,
          some "Consider using lighter alternatives or importing only needed functions"⟩) := by
  intro imports
  have lists : heavyLibraryImport.Lists := ⟨rfl, rfl, rfl, by decide⟩
  have said : String.ofList (heavyLibraryImport.message.flatMap
      (·.shown (PatternRule.matchedTexts imports))) =
        "Importing heavy libraries: " ++ joinTexts imports := by
    rw [← String.toList_inj]
    simp [heavyLibraryImport, TemplatePiece.shown, TemplatePiece.all, TemplatePiece.ofSource,
      TemplateSource.shown, PatternRule.matchedTexts]
  rw [lists.issue?_eq_of_single rfl contents, found_heavyLibraryImport, said]
  rfl

/-- The texts that are listed are the matches of the lines, in order. A line has one if a heavy
library stands behind the first import on it, and it goes from there to the end of the last such
library. They are reported as they are written. -/
theorem listed_imports {file : ChangedFile} (contents : file.contents = some source)
    (category : Category) :
    let imports := (source.toList.splitOn '\n').filterMap heavyImport?
    (∀ line text, heavyImport? line = some text ↔ ∃ found : HeavyImport line, found.text = text) ∧
    (∀ line, heavyImport? line ≠ none ↔
      ∃ lead keyword others, IsFirst (Begins · "import") line lead (keyword ++ others) ∧
        Spells keyword "import" ∧
        ∃ between library rest, others = between ++ (library ++ rest) ∧ IsHeavy library rest) ∧
    heavyLibraryImport.found source.toList = imports ∧
    (Rule.pattern heavyLibraryImport).issue? category file =
      .ok (if imports = [] then none
        else some ⟨category, .medium, file.filename, none,
          "Importing heavy libraries: " ++ joinTexts imports,
          some "Consider using lighter alternatives or importing only needed functions"⟩) :=
  ⟨fun _ _ => heavyImport?_eq_some, fun _ => heavyImport?_ne_none,
    found_heavyLibraryImport source.toList, issue?_heavyLibraryImport contents category⟩

theorem listed_imports_lines :
    let first := "import \x7b_\x7d from 'lodash', 'moment.js'; jquery/y".toList
    let second := "import 'moment/min'".toList
    let third := "IMPORT Jquery".toList
    let text := first ++ '\n' :: (second ++ '\n' :: third)
    let source := String.ofList text
    let file : ChangedFile := ⟨"a.js", .modified, none, some source⟩
    file.contents = some source ∧
      (Rule.pattern heavyLibraryImport).issue? .performance file =
        .ok (some ⟨.performance, .medium, "a.js", none,
          "Importing heavy libraries: import \x7b_\x7d from 'lodash', 'moment, IMPORT Jquery",
          some "Consider using lighter alternatives or importing only needed functions"⟩) := by
  intro first second third text source file
  have contents : file.contents = some source := rfl
  have whole : source.toList = text := String.toList_ofList
  have lines : text.splitOn '\n' = [first, second, third] := by decide +kernel
  have imported : heavyImport? first = some "import \x7b_\x7d from 'lodash', 'moment".toList := by
    decide +kernel
  have path : heavyImport? second = none := by decide +kernel
  have plain : heavyImport? third = some third := by decide +kernel
  obtain ⟨-, -, -, shown⟩ := listed_imports contents .performance
  refine ⟨contents, ?_⟩
  rw [shown, whole, lines]
  simp only [List.filterMap_cons, imported, path, plain, List.filterMap_nil]
  decide +kernel

end PatchReview
