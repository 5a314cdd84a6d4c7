import PatchReview.Proofs.Pattern.Steps

/-!
# Patterns of words

Some patterns match one of a few words and nothing else. A scan lists every place where such
a word stands, in order and once, unless a match that was listed goes on over the place
(`Words.mem_findAll_iff`). So nothing is left out if no word can begin inside another one,
and where one can, the words themselves say how far inside (`Words.mem_overlaps`).
-/

namespace PatchReview

attribute [ext] Cursor Match

def Match.position (m : Match) : Nat := m.start.before.length

def Match.Occurs (kind : List Char → List Char → Prop) (text : List Char) (m : Match) : Prop :=
  ∃ rest, text = m.start.before.reverse ++ m.start.after ∧ m.start.after = m.text ++ rest ∧
    kind m.text rest

variable {kind : List Char → List Char → Prop} {text : List Char} {m n : Match}

theorem Match.Occurs.after_eq (h : m.Occurs kind text) : m.start.after = text.drop m.position := by
  obtain ⟨rest, whole, -, -⟩ := h
  simp [whole, Match.position]

def Match.slice (text : List Char) (position length : Nat) : Match :=
  ⟨⟨(text.take position).reverse, text.drop position⟩, (text.drop position).take length⟩

theorem Match.occurs_slice {position length : Nat}
    (is : kind ((text.drop position).take length) ((text.drop position).drop length)) :
    (slice text position length).Occurs kind text :=
  ⟨_, by simp [slice], (List.take_append_drop length _).symm, is⟩

namespace Text

/-- How far inside the first word the second one can begin. -/
def overlaps (first second : String) : List Nat :=
  (List.range first.toList.length).filter fun skipped =>
    let left := (first.toList.map fold).drop skipped
    let whole := second.toList.map fold
    left.isPrefixOf whole || whole.isPrefixOf left

theorem mem_overlaps {inner more rest taken after : List Char} (h : Spells (inner ++ more) first)
    (h' : Spells taken second) (some : more ≠ []) (same : more ++ rest = taken ++ after) :
    inner.length ∈ overlaps first second := by
  have left : (first.toList.map fold).drop inner.length = more.map fold := by
    rw [← h]
    simp
  have inside : inner.length < first.toList.length := by
    have long := h.length_eq
    have := List.length_pos_iff.mpr some
    simp only [List.length_append] at long
    omega
  have whole : second.toList.map fold = taken.map fold := h'.symm
  simp only [overlaps, List.mem_filter, List.mem_range, Bool.or_eq_true,
    List.isPrefixOf_iff_prefix, left, whole]
  refine ⟨inside, ?_⟩
  rcases List.append_eq_append_iff.mp same with ⟨others, rfl, -⟩ | ⟨others, rfl, -⟩
  · exact .inl (by simp)
  · exact .inr (by simp)

end Text

namespace Pattern

open Text (Spells overlaps)

variable {p : Pattern} {before taken after : List Char} {found : List Match}

theorem Scans.pairwise (run : p.Scans before after found) :
    found.Pairwise fun m n => m.stop ≤ n.position := by
  induction run with
  | done => exact .nil
  | pass none later ih => exact ih
  | @take before taken after found some finds later ih =>
    refine .cons (fun n among => ?_) ih
    obtain ⟨passed, place, -⟩ := later.whole among
    simp only [Match.stop, Match.position, place, List.length_append, List.length_reverse]
    omega

/-- A pattern of words matches one of them, of which no two can stand at one place. What
follows may decide whether a word counts. -/
structure Words (p : Pattern) (words : List String) (kind : List Char → List Char → Prop) :
    Prop where
  spans_iff : ∀ before taken after, p.Spans before taken after ↔ kind taken after
  spells : ∀ taken after, kind taken after → ∃ word ∈ words, Spells taken word
  filled : ∀ word ∈ words, word.toList ≠ []
  apart : ∀ first ∈ words, ∀ second ∈ words, 0 ∈ overlaps first second → first = second

namespace Words

variable {words : List String} (isWords : p.Words words kind)

include isWords

theorem ne_nil (h : kind taken after) : taken ≠ [] := by
  rintro rfl
  obtain ⟨word, listed, spells⟩ := isWords.spells _ _ h
  exact isWords.filled word listed (List.map_eq_nil_iff.mp spells.symm)

theorem takesSome : p.TakesSome := fun before after spans =>
  isWords.ne_nil ((isWords.spans_iff before [] after).mp spans) rfl

theorem unique {others rest : List Char} (h : kind taken after) (h' : kind others rest)
    (same : taken ++ after = others ++ rest) : taken = others := by
  obtain ⟨first, hf, spellsFirst⟩ := isWords.spells _ _ h
  obtain ⟨second, hs, spellsSecond⟩ := isWords.spells _ _ h'
  have spelled : Spells ([] ++ taken) first := spellsFirst
  have meets := Text.mem_overlaps spelled spellsSecond (isWords.ne_nil h) same
  obtain rfl := isWords.apart first hf second hs meets
  exact (spellsFirst.eq_of_append_eq spellsSecond rfl same).1

theorem occurs_of_mem (listed : m ∈ p.findAll text) : m.Occurs kind text := by
  have run := isWords.takesSome.scans [] text
  obtain ⟨rest, place, finds⟩ := run.finds listed
  obtain ⟨passed, behind, whole⟩ := run.whole listed
  exact ⟨rest, by simpa [behind] using whole, place, (isWords.spans_iff _ _ _).mp finds.spans⟩

theorem position_lt_stop (listed : m ∈ p.findAll text) : m.position < m.stop := by
  obtain ⟨rest, -, -, is⟩ := isWords.occurs_of_mem listed
  have := List.length_pos_iff.mpr (isWords.ne_nil is)
  simp only [Match.position, Match.stop]
  omega

theorem pairwise_findAll (text : List Char) :
    (p.findAll text).Pairwise fun m n => m.position < n.position := by
  have ordered := (isWords.takesSome.scans [] text).pairwise
  refine ordered.imp_of_mem fun hm _ behind => ?_
  exact Nat.lt_of_lt_of_le (isWords.position_lt_stop hm) behind

/-- A word is listed exactly if no match that is listed goes on over its place. -/
theorem mem_findAll_iff :
    m ∈ p.findAll text ↔
      m.Occurs kind text ∧ ∀ n ∈ p.findAll text, n.position < m.position → n.stop ≤ m.position := by
  have run := isWords.takesSome.scans [] text
  constructor
  · intro listed
    refine ⟨isWords.occurs_of_mem listed, fun n hn earlier => ?_⟩
    have := isWords.position_lt_stop listed
    rcases run.apart hn listed with rfl | before | behind
    · exact absurd earlier (Nat.lt_irrefl _)
    · exact before
    · simp only [Match.position] at *
      omega
  · rintro ⟨⟨rest, whole, place, is⟩, free⟩
    have spans := (isWords.spans_iff (m.start.before.reverse.reverse ++ []) m.text rest).mpr is
    have here := ends_ne_nil.mpr ⟨m.text, rest, place, spans⟩
    obtain ⟨n, listed, inner, more, left, text, some, goesOn, behind⟩ :=
      run.exists_over whole here isWords.takesSome
    have same : inner.reverse ++ n.start.before = m.start.before := by simpa using behind
    cases inner with
    | nil =>
      -- Both begin at one place, where there is one word only.
      obtain ⟨others, wholeToo, follows, isToo⟩ := isWords.occurs_of_mem listed
      have behind : n.start.before = m.start.before := same
      have ahead : n.start.after = m.start.after := by
        rw [whole, behind] at wholeToo
        exact (List.append_cancel_left wholeToo).symm
      have starts : n.start = m.start := Cursor.ext behind ahead
      have spelled : n.text = m.text := isWords.unique isToo is (by rw [← follows, ahead, place])
      rwa [← Match.ext starts spelled]
    | cons c inner =>
      have place := congrArg List.length same
      have length := congrArg List.length text
      have := List.length_pos_iff.mpr some
      simp only [List.length_append, List.length_reverse, List.length_cons] at place length
      have := free n listed (by simp only [Match.position]; omega)
      simp only [Match.stop, Match.position] at this
      omega

theorem exists_overlap (hn : n.Occurs kind text) (hm : m.Occurs kind text)
    (earlier : n.position ≤ m.position) (reaches : m.position < n.stop) :
    ∃ first ∈ words, ∃ second ∈ words, Spells n.text first ∧ Spells m.text second ∧
      m.position - n.position ∈ overlaps first second := by
  have ahead := hn.after_eq
  have place := hm.after_eq
  obtain ⟨left, -, startsFirst, isFirst⟩ := hn
  obtain ⟨rest, -, startsSecond, isSecond⟩ := hm
  obtain ⟨first, hf, spellsFirst⟩ := isWords.spells _ _ isFirst
  obtain ⟨second, hs, spellsSecond⟩ := isWords.spells _ _ isSecond
  refine ⟨first, hf, second, hs, spellsFirst, spellsSecond, ?_⟩
  have inside : m.position - n.position < n.text.length := by
    simp only [Match.stop, Match.position] at *
    omega
  -- The first word comes apart where the second one begins.
  have parts := List.take_append_drop (m.position - n.position) n.text
  have same : n.text.drop (m.position - n.position) ++ left = m.text ++ rest := by
    rw [← List.drop_append_of_le_length (Nat.le_of_lt inside), ← startsFirst, ← startsSecond, ahead,
      place, List.drop_drop, Nat.add_sub_cancel' earlier]
  have some : n.text.drop (m.position - n.position) ≠ [] := by
    simpa using inside
  have meets := Text.mem_overlaps (parts.symm ▸ spellsFirst) spellsSecond some same
  rwa [List.length_take_of_le (Nat.le_of_lt inside)] at meets

theorem mem_findAll_iff_of_apart
    (alone : ∀ first ∈ words, ∀ second ∈ words, ∀ skipped ∈ overlaps first second, skipped = 0) :
    m ∈ p.findAll text ↔ m.Occurs kind text := by
  refine isWords.mem_findAll_iff.trans ⟨And.left, fun occurs => ⟨occurs, ?_⟩⟩
  intro n listed earlier
  refine Nat.not_lt.mp fun inside => ?_
  obtain ⟨first, hf, second, hs, -, -, meets⟩ := isWords.exists_overlap
    (isWords.occurs_of_mem listed) occurs (Nat.le_of_lt earlier) inside
  have := alone first hf second hs _ meets
  omega

end Words

end Pattern

end PatchReview
