import Mathlib.Data.List.TakeWhile
import PatchReview.Text.Blank
import PatchReview.Text.Case

/-!
# Stripped texts

A text comes out empty exactly if there is nothing in it but what is taken off, and
otherwise with other characters at both ends. Letters may change their case before or
after that: white space has none.
-/

namespace PatchReview.Text

theorem trimBy_eq_nil : trimBy inSet text = [] ↔ ∀ c ∈ text, inSet c = true := by
  rw [trimBy, List.reverse_eq_nil_iff, List.dropWhile_eq_nil_iff]
  constructor
  · intro inner c hc
    rw [← List.takeWhile_append_dropWhile (p := inSet) (l := text), List.mem_append] at hc
    rcases hc with taken | dropped
    · exact List.mem_takeWhile_imp taken
    · exact inner c (List.mem_reverse.mpr dropped)
  · intro whole c hc
    exact whole c ((List.dropWhile_sublist inSet).mem (List.mem_reverse.mp hc))

theorem strip_eq_nil : strip text = [] ↔ ∀ c ∈ text, isBlank c = true := trimBy_eq_nil

theorem trimBy_sublist (inSet : Char → Bool) (text : List Char) :
    (trimBy inSet text).Sublist text := by
  have inner := (List.dropWhile_sublist inSet (l := (text.dropWhile inSet).reverse)).reverse
  rw [List.reverse_reverse] at inner
  exact inner.trans (List.dropWhile_sublist inSet)

theorem trimBy_map (f : Char → Char) (same : ∀ c, inSet (f c) = inSet c) (text : List Char) :
    trimBy inSet (text.map f) = (trimBy inSet text).map f := by
  have composed : inSet ∘ f = inSet := funext same
  simp [trimBy, List.dropWhile_map, composed, ← List.map_reverse]

theorem head?_dropWhile (inSet : α → Bool) (l : List α) :
    ∀ c ∈ (l.dropWhile inSet).head?, inSet c = false := by
  intro c first
  have stops := List.head?_dropWhile_not inSet l
  rw [first] at stops
  exact stops

/-- What is taken off at either end. If nothing is left, it all stands in front.
-/
theorem exists_around_trimBy (inSet : Char → Bool) (text : List Char) :
    ∃ lead trail, text = lead ++ (trimBy inSet text ++ trail) ∧ (∀ c ∈ lead, inSet c = true) ∧
      (∀ c ∈ trail, inSet c = true) ∧
      ∀ c ∈ (trimBy inSet text ++ trail).head?, inSet c = false := by
  have rest : text.dropWhile inSet =
      trimBy inSet text ++ ((text.dropWhile inSet).reverse.takeWhile inSet).reverse := by
    rw [trimBy, ← List.reverse_append, List.takeWhile_append_dropWhile, List.reverse_reverse]
  refine ⟨text.takeWhile inSet, ((text.dropWhile inSet).reverse.takeWhile inSet).reverse, ?_,
    fun c taken => List.mem_takeWhile_imp taken,
    fun c taken => List.mem_takeWhile_imp (List.mem_reverse.mp taken), ?_⟩
  · rw [← rest, List.takeWhile_append_dropWhile]
  · rw [← rest]
    exact head?_dropWhile inSet text

theorem head?_trimBy (inSet : Char → Bool) (text : List Char) :
    ∀ c ∈ (trimBy inSet text).head?, inSet c = false := by
  intro c first
  obtain ⟨lead, trail, -, -, -, begins⟩ := exists_around_trimBy inSet text
  exact begins c (by rw [List.head?_append, first]; rfl)

theorem getLast?_trimBy (inSet : Char → Bool) (text : List Char) :
    ∀ c ∈ (trimBy inSet text).getLast?, inSet c = false := by
  rw [trimBy, List.getLast?_reverse]
  exact head?_dropWhile inSet _

theorem trimBy_between (lead : ∀ c ∈ before, inSet c = true) (trail : ∀ c ∈ after, inSet c = true)
    (first : ∃ c rest, text = c :: rest ∧ inSet c = false)
    (last : ∃ rest c, text = rest ++ [c] ∧ inSet c = false) :
    trimBy inSet (before ++ text ++ after) = text := by
  obtain ⟨c, rest, begins, outsideFirst⟩ := first
  obtain ⟨init, d, ends, outsideLast⟩ := last
  have front : (before ++ text ++ after).dropWhile inSet = text ++ after := by
    rw [List.append_assoc, List.dropWhile_append_of_pos lead, begins]
    exact List.dropWhile_cons_of_neg (by simp [outsideFirst])
  have back : (text ++ after).reverse.dropWhile inSet = text.reverse := by
    have trailing : ∀ c ∈ after.reverse, inSet c = true := fun c hc =>
      trail c (List.mem_reverse.mp hc)
    rw [List.reverse_append, List.dropWhile_append_of_pos trailing, ends, List.reverse_append]
    exact List.dropWhile_cons_of_neg (by simp [outsideLast])
  rw [trimBy, front, back, List.reverse_reverse]

-- ---------------------------------------------------------------------------
-- White space has no case
-- ---------------------------------------------------------------------------

theorem isBlank_eq_false_of_between (low : 32 < c.toNat) (high : c.toNat < 133) :
    isBlank c = false := by
  simp only [isBlank, isSpace, Bool.or_eq_false_iff, Bool.and_eq_false_iff, decide_eq_false_iff_not,
    beq_eq_false_iff_ne]
  omega

def blankCodes : List Nat :=
  [9, 10, 11, 12, 13, 28, 29, 30, 31, 32, 133, 160, 5760, 8192, 8193, 8194, 8195, 8196, 8197, 8198,
    8199, 8200, 8201, 8202, 8232, 8233, 8239, 8287, 12288]

theorem toNat_mem_blankCodes (h : isBlank c = true) : c.toNat ∈ blankCodes := by
  simp only [isBlank, isSpace, Bool.or_eq_true, Bool.and_eq_true, decide_eq_true_eq,
    beq_iff_eq] at h
  simp only [blankCodes, List.mem_cons, List.not_mem_nil, or_false]
  omega

theorem fold_of_isBlank (h : isBlank c = true) : fold c = c := by
  have all : ∀ n ∈ blankCodes, fold (Char.ofNat n) = Char.ofNat n := by decide +kernel
  have same := all c.toNat (toNat_mem_blankCodes h)
  rwa [Char.ofNat_toNat] at same

theorem isBlank_lowerAscii (c : Char) : isBlank (lowerAscii c) = isBlank c := by
  unfold lowerAscii
  split
  · next kelvin =>
    have : isBlank c = false := by simp [isBlank, isSpace, kelvin]
    rw [this]
    decide
  · unfold Char.toLower
    split
    · next capital =>
      have range : 65 ≤ c.toNat ∧ c.toNat ≤ 90 := capital
      have small : (c.val + ('a'.val - 'A'.val)).toNat = c.toNat + 32 := by
        have : c.val.toNat = c.toNat := rfl
        simp
        omega
      rw [isBlank_eq_false_of_between (c := c) (by omega) (by omega)]
      refine isBlank_eq_false_of_between ?_ ?_
      · show 32 < (c.val + ('a'.val - 'A'.val)).toNat
        omega
      · show (c.val + ('a'.val - 'A'.val)).toNat < 133
        omega
    · rfl

theorem strip_map_lowerAscii (text : List Char) :
    strip (text.map lowerAscii) = (strip text).map lowerAscii :=
  trimBy_map lowerAscii isBlank_lowerAscii text

theorem strip_eq_self_of_map_lowerAscii (h : strip (text.map lowerAscii) = text.map lowerAscii) :
    strip text = text := by
  have length := congrArg List.length (strip_map_lowerAscii text ▸ h)
  rw [List.length_map, List.length_map] at length
  exact (trimBy_sublist isBlank text).eq_of_length length

end PatchReview.Text
