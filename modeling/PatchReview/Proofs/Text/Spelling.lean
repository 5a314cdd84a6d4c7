import PatchReview.Proofs.Text.LowerCase
import PatchReview.Proofs.Text.Separator

/-!
# Words in any case

A text spells a word if the two differ in the case of letters only. A text that holds
a word, or begins with one, does so in any case, too. A sign is spelled as it is, so
what spells a word holds no sign that the word does not (`Spells.notMem`).
-/

namespace PatchReview.Text

variable {text : List Char} {word : String}

/-- The text is the word, in any case. -/
def Spells (text : List Char) (word : String) : Prop := text.map fold = word.toList.map fold

/-- The word stands somewhere in the text, in any case. -/
def Holds (text : List Char) (word : String) : Prop := word.toList.map fold <:+: text.map fold

def Begins (text : List Char) (word : String) : Prop := word.toList.map fold <+: text.map fold

instance : Decidable (Spells text word) := inferInstanceAs (Decidable (_ = _))

instance : Decidable (Holds text word) := inferInstanceAs (Decidable (_ <:+: _))

instance : Decidable (Begins text word) := inferInstanceAs (Decidable (_ <+: _))

theorem holds_iff :
    Holds text word ↔
      ∃ before spelled after, text = before ++ (spelled ++ after) ∧ Spells spelled word := by
  constructor
  · rintro ⟨before, after, whole⟩
    rw [List.append_assoc] at whole
    obtain ⟨before, rest, rfl, -, later⟩ := List.map_eq_append_iff.mp whole.symm
    obtain ⟨spelled, after, rfl, same, -⟩ := List.map_eq_append_iff.mp later
    exact ⟨before, spelled, after, rfl, same⟩
  · rintro ⟨before, spelled, after, rfl, same⟩
    refine ⟨before.map fold, after.map fold, ?_⟩
    rw [List.map_append, List.map_append, List.append_assoc, ← same]

theorem begins_iff :
    Begins text word ↔ ∃ spelled after, text = spelled ++ after ∧ Spells spelled word := by
  constructor
  · rintro ⟨after, whole⟩
    obtain ⟨spelled, after, rfl, same, -⟩ := List.map_eq_append_iff.mp whole.symm
    exact ⟨spelled, after, rfl, same⟩
  · rintro ⟨spelled, after, rfl, same⟩
    exact ⟨after.map fold, by rw [List.map_append, ← same]⟩

theorem spells_append {other : String} :
    Spells text (word ++ other) ↔
      ∃ first second, text = first ++ second ∧ Spells first word ∧ Spells second other := by
  simp only [Spells, String.toList_append, List.map_append]
  exact List.map_eq_append_iff

/-- A word without letters that are shared begins a text exactly if it begins its lower case. -/
theorem isPrefixOf_lowerAscii_iff (plain : word.toList.all isUnshared = true) :
    word.toList.isPrefixOf (text.map lowerAscii) = true ↔ Begins text word := by
  rw [List.isPrefixOf_iff_prefix, Begins]
  generalize word.toList = letters at plain ⊢
  induction letters generalizing text with
  | nil => simp
  | cons d letters ih =>
    rw [List.all_cons, Bool.and_eq_true] at plain
    cases text with
    | nil => simp
    | cons c text =>
      simp only [List.map_cons, List.cons_prefix_cons, ih plain.2, fold_of_isUnshared plain.1]
      rw [eq_comm, lowerAscii_eq_iff plain.1, eq_comm (b := fold c)]

theorem Spells.length_eq (h : Spells text word) : text.length = word.toList.length := by
  simpa using congrArg List.length h

theorem notMem_of_map_fold {other : List Char} (h : text.map fold = other.map fold)
    (sign : isSign c = true) (absent : c ∉ other) : c ∉ text := by
  intro among
  have image : fold c ∈ other.map fold := h ▸ List.mem_map_of_mem among
  obtain ⟨d, listed, same⟩ := List.mem_map.mp image
  rw [(fold_eq_iff sign).mpr rfl, fold_eq_iff sign] at same
  exact absent (same ▸ listed)

theorem Spells.notMem (h : Spells text word) (sign : isSign c = true) (absent : c ∉ word.toList) :
    c ∉ text :=
  notMem_of_map_fold h sign absent

theorem Spells.notMem_tail (h : Spells text word) (sign : isSign c = true)
    (absent : c ∉ word.toList.tail) : c ∉ text.tail := by
  refine notMem_of_map_fold ?_ sign absent
  rw [List.map_tail, List.map_tail, h]

theorem Spells.head?_eq (h : Spells text word) (sign : isSign c = true)
    (first : word.toList.head? = some c) : text.head? = some c := by
  have same : (text.map fold).head? = some c := by
    rw [h, List.head?_map, first, Option.map_some, (fold_eq_iff sign).mpr rfl]
  rw [List.head?_map, Option.map_eq_some_iff] at same
  obtain ⟨d, first, same⟩ := same
  rw [first, (fold_eq_iff sign).mp same]

theorem Spells.eq_of_append_eq {other : String} (h : Spells text word) (h' : Spells text' other)
    (long : word.toList.length = other.toList.length) (same : text ++ after = text' ++ after') :
    text = text' ∧ after = after' := by
  refine List.append_inj same ?_
  rw [h.length_eq, h'.length_eq, long]

theorem holds_append_cons {before after : List Char} (sign : isSign c = true)
    (absent : c ∉ word.toList) :
    Holds (before ++ c :: after) word ↔ Holds before word ∨ Holds after word := by
  simp only [holds_iff]
  constructor
  · rintro ⟨passed, spelled, rest, whole, spells⟩
    have free : c ∉ spelled := spells.notMem sign absent
    rcases List.append_eq_append_iff.mp whole with ⟨more, rfl, follows⟩ | ⟨left, rfl, follows⟩
    · cases more with
      | nil =>
        have begins : [] ++ c :: after = spelled ++ rest := follows
        obtain ⟨left, nothing, -⟩ := exists_left_of_append free begins
        obtain ⟨rfl, rfl⟩ := List.append_eq_nil_iff.mp nothing.symm
        exact .inl ⟨before, [], [], by simp, spells⟩
      | cons d more =>
        obtain ⟨rfl, rfl⟩ := List.cons.inj follows
        exact .inr ⟨more, spelled, rest, rfl, spells⟩
    · obtain ⟨left, rfl, -⟩ := exists_left_of_append free follows.symm
      exact .inl ⟨passed, spelled, left, rfl, spells⟩
  · rintro (⟨passed, spelled, rest, rfl, spells⟩ | ⟨passed, spelled, rest, rfl, spells⟩)
    · exact ⟨passed, spelled, rest ++ c :: after, by simp, spells⟩
    · exact ⟨before ++ c :: passed, spelled, rest, by simp, spells⟩

theorem Holds.of_word {other : String} (h : Holds text word)
    (starts : other.toList <+: word.toList) : Holds text other :=
  (starts.map fold).isInfix.trans h

end PatchReview.Text
