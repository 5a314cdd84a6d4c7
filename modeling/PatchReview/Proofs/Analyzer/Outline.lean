import Mathlib.Data.List.Chain
import Mathlib.Data.List.Induction
import Mathlib.Tactic.IntervalCases
import PatchReview.Proofs.Analyzer.BuiltIn
import PatchReview.Proofs.Pattern.Longer

/-!
# Outlines

A document with headings is a text before the first heading tag, and after each tag a
text in which no other one begins. Its tags are found one by one, each where it
begins (`findAll_text`). A heading may go one level deeper than the one before it, or
any number of levels up; the first one that goes deeper is reported with its line
(`issue?_of_outline`).
-/

namespace PatchReview

def levelDigits : List Char := ['1', '2', '3', '4', '5', '6']

/-- A heading tag. What it holds besides its level does not end it. -/
structure Heading where
  letter : Char
  isLetter : letter = 'h' ∨ letter = 'H'
  level : Nat
  positive : 1 ≤ level
  atMost : level ≤ 6
  attributes : List Char
  noEnd : '>' ∉ attributes

def Heading.text (heading : Heading) : List Char :=
  '<' :: heading.letter :: Nat.digitChar heading.level :: (heading.attributes ++ ['>'])

/-- A text in which no heading tag begins. -/
def IsGap (text : List Char) : Prop :=
  ∀ before letter digit after, text = before ++ '<' :: letter :: digit :: after →
    letter = 'h' ∨ letter = 'H' → digit ∉ levelDigits

theorem isGap_of_not_mem (h : '<' ∉ text) : IsGap text := by
  rintro before letter digit after rfl
  simp at h

/-- A heading tag with the text up to the next one. -/
structure Section where
  heading : Heading
  gap : List Char
  isGap : IsGap gap

namespace Section

def level (part : Section) : Nat := part.heading.level

def text (part : Section) : List Char := part.heading.text ++ part.gap

end Section

structure Outline where
  lead : List Char
  isGap : IsGap lead
  sections : List Section

def Outline.textUpTo (outline : Outline) (sections : List Section) : List Char :=
  outline.lead ++ sections.flatMap Section.text

def Outline.text (outline : Outline) : List Char := outline.textUpTo outline.sections

/-- No heading goes more than one level deeper than the one before it. -/
def IsGradual (sections : List Section) : Prop :=
  sections.IsChain fun previous next => next.level ≤ previous.level + 1

/-- The first heading that goes more than one level deeper than the one before
it. -/
structure FirstSkip (sections : List Section) where
  early : List Section
  previous : Section
  skip : Section
  late : List Section
  whole : sections = early ++ previous :: skip :: late
  gradual : IsGradual (early ++ [previous])
  skips : previous.level + 1 < skip.level

def Outline.lineOf (outline : Outline) (first : FirstSkip outline.sections) : Nat :=
  1 + (outline.textUpTo (first.early ++ [first.previous])).count '\n'

-- ---------------------------------------------------------------------------
-- Tags
-- ---------------------------------------------------------------------------

namespace HeadingRule

theorem sameLetter_h : sameLetter 'h' c = true ↔ c = 'h' ∨ c = 'H' := by
  constructor
  · intro same
    have lower := Text.toLower_of_fold_eq (beq_iff_eq.mp same).symm (by decide) (by decide)
      (by decide)
    rw [show Text.fold 'h' = 'h' by decide] at lower
    simpa [lower] using Text.eq_or_eq_toUpper c
  · rintro (rfl | rfl) <;> decide

theorem exists_start_of_mem_ends (h : there ∈ tag.ends here) :
    ∃ letter digit after, here.after = '<' :: letter :: digit :: after ∧
      (letter = 'h' ∨ letter = 'H') ∧ digit ∈ levelDigits := by
  obtain ⟨opened, opens, h⟩ := List.mem_flatMap.mp h
  obtain ⟨named, names, -⟩ := List.mem_flatMap.mp h
  obtain ⟨between, isFirst, opens⟩ := List.mem_flatMap.mp opens
  obtain ⟨last, isSecond, opens⟩ := List.mem_flatMap.mp opens
  obtain rfl := List.mem_singleton.mp opens
  obtain ⟨first, begins, -, isOpening⟩ := Pattern.mem_ends_letter.mp isFirst
  obtain ⟨letter, goesOn, -, isLetter⟩ := Pattern.mem_ends_letter.mp isSecond
  obtain ⟨digit, follows, -, isDigit⟩ := Pattern.mem_ends_one.mp names
  have opening : first = '<' := (Pattern.sameLetter_iff (by decide)).mp isOpening
  refine ⟨letter, digit, named.after, ?_, sameLetter_h.mp isLetter, ?_⟩
  · rw [begins, goesOn, follows, opening]
  · exact List.contains_iff_mem.mp isDigit

theorem digitChar_mem_levelDigits (positive : 1 ≤ n) (atMost : n ≤ 6) :
    Nat.digitChar n ∈ levelDigits := by
  interval_cases n <;> decide

theorem level_text (heading : Heading) (start : Cursor) :
    level ⟨start, heading.text⟩ = heading.level := by
  have := heading.atMost
  have digit : (Nat.digitChar heading.level).toNat = 48 + heading.level :=
    Nat.toNat_digitChar_of_lt_ten (by omega)
  simp [level, Heading.text, digit]

theorem matchLength?_text (heading : Heading) (before after : List Char) :
    tag.matchLength? ⟨before, heading.text ++ after⟩ = some heading.text.length := by
  have opening : sameLetter '<' '<' = true := by decide
  have closing : sameLetter '>' '>' = true := by decide
  have letter : sameLetter 'h' heading.letter = true := sameLetter_h.mpr heading.isLetter
  have digit : (CharSet.oneOf levelDigits).has (Nat.digitChar heading.level) = true :=
    List.contains_iff_mem.mpr (digitChar_mem_levelDigits heading.positive heading.atMost)
  unfold levelDigits at digit
  have attributes : ∀ c ∈ heading.attributes, (CharSet.noneOf ['>']).has c = true := by
    rintro c inside
    have : c ≠ '>' := by
      rintro rfl
      exact heading.noEnd inside
    simpa [CharSet.has] using this
  have stops : (CharSet.noneOf ['>']).has '>' = false := by decide
  have name : ['<', 'h'] = "<h".toList := by decide
  have bracket : ['>'] = ">".toList := by decide
  simp only [Pattern.matchLength?, tag, Pattern.sequence, Pattern.literal, Pattern.letters,
    Heading.text, ← name, ← bracket, List.foldr_cons, List.foldr_nil, Pattern.run, List.cons_append,
    opening, letter, digit, if_true, List.append_assoc, List.nil_append]
  refine Pattern.runMany_of_taken attributes stops ?_
  simp [closing]
  omega

theorem matchesAt_text (heading : Heading) (before after : List Char) :
    tag.matchesAt ⟨before, heading.text ++ after⟩ =
      [⟨⟨before, heading.text ++ after⟩, heading.text⟩] := by
  have some : heading.text.length = (heading.attributes.length + 3) + 1 := by simp [Heading.text]
  simp only [Pattern.matchesAt, matchLength?_text, some]
  rw [← some, List.take_left]

/-- No tag begins in a gap, whatever follows it. -/
theorem ends_of_isGap (isGap : IsGap gap) (fromTag : ∀ c ∈ after.head?, c = '<')
    (inside : gap = passed ++ c :: rest) :
    tag.ends ⟨before, c :: rest ++ after⟩ = [] := by
  refine List.eq_nil_iff_forall_not_mem.mpr fun there reached => ?_
  obtain ⟨letter, digit, later, starts, isLetter, isDigit⟩ := exists_start_of_mem_ends reached
  simp only [List.cons_append, List.cons.injEq] at starts
  obtain ⟨rfl, starts⟩ := starts
  -- A tag takes three characters to begin, so it may reach into what follows the gap. That
  -- begins with the sign of another tag, which is neither a letter nor a digit.
  obtain _ | ⟨d, _ | ⟨e, rest⟩⟩ := rest
  · obtain rfl : after = letter :: digit :: later := starts
    simp_all
  · obtain ⟨rfl, rfl⟩ : d = letter ∧ after = digit :: later := by simpa using starts
    obtain rfl := fromTag digit rfl
    revert isDigit
    decide
  · obtain ⟨rfl, rfl, -⟩ : d = letter ∧ e = digit ∧ rest ++ after = later := by simpa using starts
    exact isGap passed d e rest inside isLetter isDigit

theorem scan_gap (isGap : IsGap gap) (before : List Char) (sections : List Section) :
    tag.scan 0 before (gap ++ sections.flatMap Section.text) =
      tag.scan 0 (gap.reverse ++ before) (sections.flatMap Section.text) := by
  have fromTag : ∀ c ∈ (sections.flatMap Section.text).head?, c = '<' := by
    cases sections <;> simp [Section.text, Heading.text]
  exact Pattern.scan_append _ fun passed c rest inside => ends_of_isGap isGap fromTag inside

def tagsFrom (before : List Char) : List Section → List Match
  | [] => []
  | part :: rest =>
    ⟨⟨before, (part :: rest).flatMap Section.text⟩, part.heading.text⟩ ::
      tagsFrom (part.text.reverse ++ before) rest

theorem scan_sections (isGap : IsGap gap) (before : List Char) (sections : List Section) :
    tag.scan 0 before (gap ++ sections.flatMap Section.text) =
      tagsFrom (gap.reverse ++ before) sections := by
  rw [scan_gap isGap]
  induction sections generalizing gap before with
  | nil =>
    rw [List.flatMap_nil, Pattern.scan, if_pos rfl]
    refine Pattern.matchesAt_eq_nil.mpr (List.eq_nil_iff_forall_not_mem.mpr fun there reached => ?_)
    obtain ⟨_, _, _, starts, -⟩ := exists_start_of_mem_ends reached
    cases starts
  | cons part rest ih =>
    have whole : (part :: rest).flatMap Section.text =
        part.heading.text ++ (part.gap ++ rest.flatMap Section.text) := by
      simp [Section.text]
    have taken : part.heading.text ≠ [] := by simp [Heading.text]
    rw [tagsFrom, whole, Pattern.scan_of_match taken (matchesAt_text ..), scan_gap part.isGap,
      ih part.isGap, Section.text, List.reverse_append, List.append_assoc]

theorem findAll_text (outline : Outline) :
    tag.findAll outline.text = tagsFrom outline.lead.reverse outline.sections := by
  rw [Pattern.findAll, Outline.text, Outline.textUpTo, scan_sections outline.isGap, List.append_nil]

-- ---------------------------------------------------------------------------
-- Levels
-- ---------------------------------------------------------------------------

theorem firstSkip_tagsFrom_cons (follows : ∀ level ∈ opening, part.level ≤ level + 1)
    (before : List Char) (rest : List Section) :
    firstSkip opening (tagsFrom before (part :: rest)) =
      firstSkip (some part.level) (tagsFrom (part.text.reverse ++ before) rest) := by
  have within : opening.any (· + 1 < part.level) = false := by
    cases opening with
    | none => rfl
    | some level => simpa using follows level rfl
  simp [tagsFrom, firstSkip, level_text, ← Section.level.eq_1, within]

theorem firstSkip_of_isGradual (gradual : IsGradual sections)
    (follows : ∀ level ∈ opening, ∀ first ∈ sections.head?, first.level ≤ level + 1) :
    firstSkip opening (tagsFrom before sections) = none := by
  induction sections generalizing opening before with
  | nil => rfl
  | cons part rest ih =>
    obtain ⟨next, later⟩ := List.isChain_cons.mp gradual
    rw [firstSkip_tagsFrom_cons fun level opens => follows level opens part rfl]
    refine ih later ?_
    rintro _ ⟨⟩
    exact next

theorem firstSkip_of_skip (gradual : IsGradual (early ++ [previous]))
    (follows : ∀ level ∈ opening, ∀ first ∈ (early ++ [previous]).head?, first.level ≤ level + 1)
    (skips : previous.level + 1 < skip.level) :
    (firstSkip opening (tagsFrom before (early ++ previous :: skip :: late))).map (·.start.before) =
      some (((early ++ [previous]).flatMap Section.text).reverse ++ before) := by
  induction early generalizing opening before with
  | nil =>
    rw [List.nil_append, firstSkip_tagsFrom_cons fun level opens => follows level opens previous rfl]
    have deeper : previous.heading.level + 1 < skip.heading.level := skips
    simp [tagsFrom, firstSkip, level_text, Section.level, deeper]
  | cons part early ih =>
    obtain ⟨next, later⟩ := List.isChain_cons.mp gradual
    rw [List.cons_append, firstSkip_tagsFrom_cons fun level opens => follows level opens part rfl,
      ih later]
    · simp
    · rintro _ ⟨⟩
      exact next

theorem before_firstSkip (first : FirstSkip sections) (before : List Char) :
    (firstSkip none (tagsFrom before sections)).map (·.start.before) =
      some (((first.early ++ [first.previous]).flatMap Section.text).reverse ++ before) := by
  obtain ⟨early, previous, skip, late, rfl, gradual, skips⟩ := first
  exact firstSkip_of_skip gradual (by simp) skips

end HeadingRule

theorem exists_firstSkip (h : ¬ IsGradual sections) : Nonempty (FirstSkip sections) := by
  -- From the end, since the sections before a first skip are the ones that are gradual.
  induction sections using List.reverseRecOn with
  | nil => exact absurd .nil h
  | append_singleton sections last ih =>
    by_cases gradual : IsGradual sections
    · obtain rfl | ⟨early, previous, rfl⟩ := sections.eq_nil_or_concat'
      · exact absurd (.singleton last) h
      · refine ⟨⟨early, previous, last, [], by simp, gradual, ?_⟩⟩
        by_contra within
        refine h ?_
        rw [IsGradual, List.append_assoc, List.singleton_append, List.isChain_split,
          List.isChain_pair]
        exact ⟨gradual, by omega⟩
    · obtain ⟨first⟩ := ih gradual
      exact ⟨{ first with
        late := first.late ++ [last]
        whole := by simp [first.whole] }⟩

theorem issue?_headingSkipsLevel {file : ChangedFile}
    (contents : file.contents = some (String.ofList text)) (category : Category) :
    (Rule.heading headingSkipsLevel).issue? category file =
      .ok ((HeadingRule.firstSkip none (HeadingRule.tag.findAll text)).map fun skip =>
        ⟨category, .low, file.filename, some skip.start.line, "Heading hierarchy skips levels",
          some "Use sequential heading levels (h1, h2, h3) for proper document structure"⟩) := by
  rw [Rule.issue?, contents, Option.map_some, String.toList_ofList, Rule.evaluate,
    HeadingRule.evaluate]
  cases HeadingRule.firstSkip none (HeadingRule.tag.findAll text) <;> rfl

variable {outline : Outline}

theorem Outline.lineOf_le (first : FirstSkip outline.sections) :
    outline.lineOf first ≤ 1 + outline.text.count '\n' := by
  have whole : outline.text = outline.textUpTo (first.early ++ [first.previous]) ++
      (first.skip :: first.late).flatMap Section.text :=
    (congrArg outline.textUpTo first.whole).trans (by simp [textUpTo])
  rw [lineOf, whole, List.count_append]
  omega

/-- Of the headings of a document the first one that skips a level is reported, with
the line where its tag begins; later ones make no difference. -/
theorem issue?_of_outline {file : ChangedFile}
    (contents : file.contents = some (String.ofList outline.text)) (category : Category) :
    (IsGradual outline.sections →
      (Rule.heading headingSkipsLevel).issue? category file = .ok none) ∧
    (¬ IsGradual outline.sections → Nonempty (FirstSkip outline.sections)) ∧
    ∀ first : FirstSkip outline.sections,
      (Rule.heading headingSkipsLevel).issue? category file =
        .ok (some ⟨category, .low, file.filename, some (outline.lineOf first),
          "Heading hierarchy skips levels",
          some "Use sequential heading levels (h1, h2, h3) for proper document structure"⟩) ∧
      1 ≤ outline.lineOf first ∧ outline.lineOf first ≤ 1 + outline.text.count '\n' := by
  rw [issue?_headingSkipsLevel contents, HeadingRule.findAll_text]
  refine ⟨fun gradual => ?_, exists_firstSkip, fun first => ⟨?_, by simp [Outline.lineOf], ?_⟩⟩
  · rw [HeadingRule.firstSkip_of_isGradual gradual (by simp), Option.map_none]
  · obtain ⟨tagged, found, place⟩ :=
      Option.map_eq_some_iff.mp (HeadingRule.before_firstSkip first outline.lead.reverse)
    have line : tagged.start.line = outline.lineOf first := by
      rw [Cursor.line, place, ← List.reverse_append, List.count_reverse, Nat.add_comm]
      rfl
    rw [found, Option.map_some, line]
  · exact Outline.lineOf_le first

/-- A document that goes from the first level down to the third on its third line. -/
theorem issue?_of_outline_thirdLine :
    let gap : IsGap ['\n'] := isGap_of_not_mem (by decide)
    let opening : Section := ⟨⟨'h', .inl rfl, 1, by decide, by decide, ['\n'], by decide⟩, _, gap⟩
    let skip : Section := ⟨⟨'H', .inr rfl, 3, by decide, by decide, [' '], by decide⟩, _, gap⟩
    let outline : Outline := ⟨[], isGap_of_not_mem (by decide), [opening, skip, opening, skip]⟩
    let file : ChangedFile := ⟨"page.md", .added, none, some (String.ofList outline.text)⟩
    file.contents = some (String.ofList outline.text) ∧
      outline.text = "<h1\n>\n<H3 >\n<h1\n>\n<H3 >\n".toList ∧
      (Rule.heading headingSkipsLevel).issue? .accessibility file =
        .ok (some ⟨.accessibility, .low, "page.md", some 3, "Heading hierarchy skips levels",
          some "Use sequential heading levels (h1, h2, h3) for proper document structure"⟩) := by
  intro gap opening skip outline file
  have contents : file.contents = some (String.ofList outline.text) := rfl
  let first : FirstSkip outline.sections :=
    ⟨[], opening, skip, [opening, skip], rfl, .singleton opening, by decide⟩
  exact ⟨contents, by decide, ((issue?_of_outline contents .accessibility).2.2 first).1⟩

end PatchReview
