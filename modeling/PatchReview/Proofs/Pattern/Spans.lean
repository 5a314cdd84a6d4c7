import PatchReview.Proofs.Pattern.Scan
import PatchReview.Proofs.Pattern.Taken
import PatchReview.Proofs.Text.Spelling

/-!
# The texts that patterns match

A pattern spans a text between two others if one of its matches takes just that text.
For every kind of pattern one rule says which texts those are, so that what a pattern
spans can be read off it. Where a pattern that always takes something matches, the
match that a scan finds has one of the texts that it spans (`TakesSome.exists_finds`).
-/

namespace PatchReview.Pattern

variable {p first second : Pattern} {set : CharSet} {before taken after : List Char}

/-- A match may take a text that stands between two others. -/
def Spans (p : Pattern) (before taken after : List Char) : Prop :=
  ⟨taken.reverse ++ before, after⟩ ∈ p.ends ⟨before, taken ++ after⟩

theorem exists_spans (h : there ∈ p.ends here) :
    ∃ taken, here.after = taken ++ there.after ∧ p.Spans here.before taken there.after := by
  obtain ⟨taken, starts, past⟩ := exists_past h
  rw [starts, past] at h
  exact ⟨taken, congrArg Cursor.after starts, h⟩

theorem ends_eq_nil :
    p.ends ⟨before, after⟩ = [] ↔
      ∀ taken rest, after = taken ++ rest → ¬ p.Spans before taken rest := by
  constructor
  · rintro none taken rest rfl spans
    rw [Spans, none] at spans
    cases spans
  · intro none
    refine List.eq_nil_iff_forall_not_mem.mpr fun there reached => ?_
    obtain ⟨taken, starts, spans⟩ := exists_spans reached
    exact none taken there.after starts spans

theorem ends_ne_nil :
    p.ends ⟨before, after⟩ ≠ [] ↔
      ∃ taken rest, after = taken ++ rest ∧ p.Spans before taken rest := by
  simp [Ne, ends_eq_nil]

-- ---------------------------------------------------------------------------
-- One rule for each kind of pattern
-- ---------------------------------------------------------------------------

@[simp] theorem spans_empty : empty.Spans before taken after ↔ taken = [] := by
  simp [Spans, ends]

theorem exists_single_iff {takes : Char → Bool} :
    (∃ d, taken ++ after = d :: after ∧ taken.reverse ++ before = d :: before ∧ takes d = true) ↔
      ∃ d, taken = [d] ∧ takes d = true := by
  constructor
  · rintro ⟨d, starts, -, accepted⟩
    have whole : taken ++ after = [d] ++ after := starts
    exact ⟨d, List.append_cancel_right whole, accepted⟩
  · rintro ⟨d, rfl, accepted⟩
    exact ⟨d, rfl, rfl, accepted⟩

@[simp] theorem spans_letter :
    (letter c).Spans before taken after ↔ ∃ d, taken = [d] ∧ sameLetter c d = true :=
  mem_ends_letter.trans exists_single_iff

@[simp] theorem spans_one :
    (one set).Spans before taken after ↔ ∃ d, taken = [d] ∧ set.has d = true :=
  mem_ends_one.trans exists_single_iff

@[simp] theorem spans_seq :
    (seq first second).Spans before taken after ↔
      ∃ one two, taken = one ++ two ∧ first.Spans before one (two ++ after) ∧
        second.Spans (one.reverse ++ before) two after := by
  constructor
  · intro spans
    obtain ⟨between, reaches, goesOn⟩ := List.mem_flatMap.mp spans
    obtain ⟨one, starts, past⟩ := exists_past reaches
    obtain ⟨two, follows, -⟩ := exists_past goesOn
    have later : between.after = two ++ after := congrArg Cursor.after follows
    have whole : taken ++ after = one ++ (two ++ after) := later ▸ congrArg Cursor.after starts
    rw [← List.append_assoc] at whole
    obtain rfl := List.append_cancel_right whole
    rw [past, later] at reaches goesOn
    refine ⟨one, two, rfl, ?_, ?_⟩
    · simpa [Spans] using reaches
    · simpa [Spans] using goesOn
  · rintro ⟨one, two, rfl, reaches, goesOn⟩
    refine List.mem_flatMap.mpr ⟨⟨one.reverse ++ before, two ++ after⟩, ?_, ?_⟩
    · simpa [Spans] using reaches
    · simpa [Spans] using goesOn

@[simp] theorem spans_alt :
    (alt first second).Spans before taken after ↔
      first.Spans before taken after ∨ second.Spans before taken after :=
  List.mem_append

@[simp] theorem spans_many :
    (many set).Spans before taken after ↔ ∀ c ∈ taken, set.has c = true := by
  constructor
  · intro spans
    obtain ⟨others, starts, -, all⟩ := mem_manyEnds.mp spans
    have whole : taken ++ after = others ++ after := starts
    obtain rfl := List.append_cancel_right whole
    exact all
  · intro all
    exact mem_manyEnds.mpr ⟨taken, rfl, rfl, all⟩

theorem spans_many_noneOf : (many (.noneOf [sign])).Spans before taken after ↔ sign ∉ taken := by
  simp only [spans_many, CharSet.has]
  constructor
  · intro all inside
    simpa using all sign inside
  · intro free c inside
    have : c ≠ sign := by
      rintro rfl
      exact free inside
    simpa using this

theorem place_eq_iff :
    (⟨taken.reverse ++ before, after⟩ : Cursor) = ⟨before, taken ++ after⟩ ↔ taken = [] := by
  simp

@[simp] theorem spans_ahead :
    (ahead p).Spans before taken after ↔
      taken = [] ∧ ∃ seen rest, after = seen ++ rest ∧ p.Spans before seen rest := by
  rw [Spans, mem_ends_ahead, place_eq_iff]
  refine and_congr_right ?_
  rintro rfl
  exact ends_ne_nil

@[simp] theorem spans_notAhead :
    (notAhead p).Spans before taken after ↔
      taken = [] ∧ ∀ seen rest, after = seen ++ rest → ¬ p.Spans before seen rest := by
  rw [Spans, mem_ends_notAhead, place_eq_iff]
  refine and_congr_right ?_
  rintro rfl
  exact ends_eq_nil

@[simp] theorem spans_wordEdge :
    wordEdge.Spans before taken after ↔ taken = [] ∧ atWordEdge ⟨before, after⟩ = true := by
  rw [Spans, mem_ends_wordEdge, place_eq_iff]
  refine and_congr_right ?_
  rintro rfl
  rfl

@[simp] theorem spans_seq_empty :
    (seq p empty).Spans before taken after ↔ p.Spans before taken after := by
  simp

@[simp] theorem spans_optional :
    (optional p).Spans before taken after ↔ p.Spans before taken after ∨ taken = [] := by
  simp [optional]

theorem spans_letters {word : List Char} :
    (letters word p).Spans before taken after ↔
      ∃ spelled rest, taken = spelled ++ rest ∧ spelled.map Text.fold = word.map Text.fold ∧
        p.Spans (spelled.reverse ++ before) rest after := by
  induction word generalizing before taken with
  | nil =>
    constructor
    · exact fun spans => ⟨[], taken, rfl, rfl, spans⟩
    · rintro ⟨spelled, rest, rfl, nothing, spans⟩
      obtain rfl := List.map_eq_nil_iff.mp nothing
      exact spans
  | cons c word ih =>
    simp only [letters, List.foldr_cons] at ih ⊢
    simp only [spans_seq, spans_letter, ih, sameLetter, beq_iff_eq]
    constructor
    · rintro ⟨one, two, rfl, ⟨d, rfl, same⟩, spelled, rest, rfl, spells, later⟩
      exact ⟨d :: spelled, rest, rfl, by simp [same, spells], by simpa using later⟩
    · rintro ⟨spelled, rest, rfl, spells, later⟩
      obtain ⟨d, spelled, rfl, same, spells⟩ := List.map_eq_cons_iff.mp spells
      exact ⟨[d], spelled ++ rest, rfl, ⟨d, rfl, same.symm⟩, spelled, rest, rfl, spells,
        by simpa using later⟩

@[simp] theorem spans_literal {word : String} :
    (literal word).Spans before taken after ↔ Text.Spells taken word := by
  simp [literal, spans_letters, Text.Spells]

@[simp] theorem spans_sequence_nil : (sequence []).Spans before taken after ↔ taken = [] :=
  spans_empty

@[simp] theorem spans_sequence_cons {parts : List Pattern} :
    (sequence (p :: parts)).Spans before taken after ↔
      ∃ one two, taken = one ++ two ∧ p.Spans before one (two ++ after) ∧
        (sequence parts).Spans (one.reverse ++ before) two after :=
  spans_seq

theorem spans_alternatives {words : List String} (some : words ≠ []) :
    (alternatives words).Spans before taken after ↔ ∃ word ∈ words, Text.Spells taken word := by
  induction words with
  | nil => exact absurd rfl some
  | cons word rest ih =>
    cases rest with
    | nil => simp [alternatives]
    | cons next rest => simp [alternatives, ih (by simp)]

-- ---------------------------------------------------------------------------
-- What a scan takes
-- ---------------------------------------------------------------------------

def TakesSome (p : Pattern) : Prop := ∀ before after, ¬ p.Spans before [] after

def Finds (p : Pattern) (before taken after : List Char) : Prop :=
  p.matchesAt ⟨before, taken ++ after⟩ = [⟨⟨before, taken ++ after⟩, taken⟩]

theorem takesSome_of_mayBeEmpty (h : p.mayBeEmpty = false) : p.TakesSome := by
  intro before after spans
  obtain ⟨others, starts, -, allowed⟩ := exists_takes spans
  have whole : [] ++ after = others ++ after := starts
  obtain rfl := List.append_cancel_right whole
  rw [allowed.empty rfl] at h
  cases h

theorem TakesSome.ne_nil (h : p.TakesSome) (spans : p.Spans before taken after) : taken ≠ [] := by
  rintro rfl
  exact h before after spans

theorem Finds.spans (h : p.Finds before taken after) : p.Spans before taken after := by
  have found : ⟨⟨before, taken ++ after⟩, taken⟩ ∈ p.matchesAt ⟨before, taken ++ after⟩ :=
    h ▸ List.mem_singleton_self _
  obtain ⟨there, reached, starts⟩ := reaches_of_mem_matchesAt found
  obtain rfl : after = there.after := List.append_cancel_left starts
  obtain ⟨others, same, spans⟩ := exists_spans reached
  obtain rfl : taken = others := List.append_cancel_right same
  exact spans

/-- Where the pattern matches, a scan finds one match, with a text that it
spans. -/
theorem TakesSome.exists_finds (h : p.TakesSome) (some : p.ends ⟨before, after⟩ ≠ []) :
    ∃ taken rest, after = taken ++ rest ∧ taken ≠ [] ∧ p.Finds before taken rest := by
  cases found : p.matchLength? ⟨before, after⟩ with
  | none =>
    have none : p.matchesAt ⟨before, after⟩ = [] := by simp [matchesAt, found]
    exact absurd (matchesAt_eq_nil.mp none) some
  | some length =>
    have first := found
    rw [matchLength?, run_eq_findSome] at first
    obtain ⟨there, reached, ends⟩ := List.exists_of_findSome?_eq_some first
    obtain ⟨taken, starts, spans⟩ := exists_spans reached
    obtain rfl : after = taken ++ there.after := starts
    have proper : taken ≠ [] := h.ne_nil spans
    obtain ⟨n, long⟩ : ∃ n, taken.length = n + 1 :=
      Nat.exists_eq_succ_of_ne_zero (mt List.length_eq_zero_iff.mp proper)
    obtain rfl : n + 1 = length := by simpa [long] using ends
    have text : (taken ++ there.after).take (n + 1) = taken := by rw [← long, List.take_left]
    exact ⟨taken, there.after, rfl, proper, by simp only [Finds, matchesAt, found, text]⟩

theorem findAll_ne_nil_iff :
    p.findAll text ≠ [] ↔
      ∃ passed taken rest, text = passed ++ (taken ++ rest) ∧
        p.Spans passed.reverse taken rest := by
  rw [findAll, ne_eq, scan_eq_nil, Barren]
  constructor
  · intro matched
    simp only [Classical.not_forall] at matched
    obtain ⟨passed, rest, whole, some⟩ := matched
    obtain ⟨taken, left, rfl, spans⟩ := ends_ne_nil.mp some
    exact ⟨passed, taken, left, whole, by simpa using spans⟩
  · rintro ⟨passed, taken, rest, rfl, spans⟩ barren
    refine ends_eq_nil.mp (barren passed (taken ++ rest) rfl) taken rest rfl ?_
    simpa using spans

end PatchReview.Pattern
