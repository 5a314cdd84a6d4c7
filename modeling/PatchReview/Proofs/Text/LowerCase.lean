import PatchReview.Text.Blank
import PatchReview.Text.Case
import PatchReview.Text.Word

/-!
# Lower case

A capital letter of ASCII and its small letter are one letter, both are word
characters, and neither is white space. So nothing that patterns ask of a
character tells it from its lower case.
-/

namespace PatchReview.Text

theorem toLower_of_not_isUpper {c : Char} (h : c.isUpper = false) : c.toLower = c :=
  dif_neg (of_decide_eq_false h)

/-- What tells no letter of ASCII from its lower case tells no character from it. -/
theorem toLower_congr {f : Char → α}
    (ascii : ∀ n < 128, f (Char.ofNat n).toLower = f (Char.ofNat n)) (c : Char) :
    f c.toLower = f c := by
  by_cases low : c.toNat < 128
  · have same := ascii c.toNat low
    rwa [Char.ofNat_toNat] at same
  · have high : c.isUpper = false := by
      refine decide_eq_false fun upper => ?_
      have : c.toNat ≤ 90 := upper.2
      omega
    rw [toLower_of_not_isUpper high]

structure Aspects where
  fold : Char
  isBlank : Bool
  isWord : Bool
  lowerAscii : Char
  toLower : Char
  isAlpha : Bool
  deriving DecidableEq

def aspects (c : Char) : Aspects :=
  ⟨fold c, isBlank c, isWord c, lowerAscii c, c.toLower, c.isAlpha⟩

theorem aspects_toLower (c : Char) : aspects c.toLower = aspects c :=
  toLower_congr (by decide +kernel) c

theorem fold_toLower (c : Char) : fold c.toLower = fold c :=
  congrArg Aspects.fold (aspects_toLower c)

theorem isBlank_toLower (c : Char) : isBlank c.toLower = isBlank c :=
  congrArg Aspects.isBlank (aspects_toLower c)

theorem isWord_toLower (c : Char) : isWord c.toLower = isWord c :=
  congrArg Aspects.isWord (aspects_toLower c)

theorem lowerAscii_toLower (c : Char) : lowerAscii c.toLower = lowerAscii c :=
  congrArg Aspects.lowerAscii (aspects_toLower c)

theorem toLower_toLower (c : Char) : c.toLower.toLower = c.toLower :=
  congrArg Aspects.toLower (aspects_toLower c)

theorem isAlpha_toLower (c : Char) : c.toLower.isAlpha = c.isAlpha :=
  congrArg Aspects.isAlpha (aspects_toLower c)

theorem toLower_eq_iff {c d : Char} (h : d.isAlpha = false) : c.toLower = d ↔ c = d := by
  have kept {c : Char} (h : c.isAlpha = false) : c.toLower = c :=
    toLower_of_not_isUpper (Bool.or_eq_false_iff.mp h).1
  constructor
  · rintro rfl
    rw [isAlpha_toLower] at h
    exact (kept h).symm
  · rintro rfl
    exact kept h

theorem contains_toLower {members : List Char} (h : members.all (!·.isAlpha) = true) (c : Char) :
    members.contains c.toLower = members.contains c := by
  induction members with
  | nil => rfl
  | cons member rest ih =>
    simp only [List.all_cons, Bool.and_eq_true, Bool.not_eq_true'] at h
    have same : (c.toLower == member) = (c == member) := by
      rw [Bool.eq_iff_iff, beq_iff_eq, beq_iff_eq]
      exact toLower_eq_iff h.1
    rw [List.contains_cons, List.contains_cons, ih h.2, same]

theorem toList_toLower (s : String) : s.toLower.toList = s.toList.map Char.toLower :=
  String.toList_map

-- ---------------------------------------------------------------------------
-- What stands for a sign or a letter
-- ---------------------------------------------------------------------------

/-- The letters of ASCII that other characters stand for: those of the dotted and the
dotless i, of the Kelvin sign and of the long s. -/
def sharedCodes : List Nat := [105, 107, 115]

theorem apply_foldRuns (h : 128 ≤ code) :
    Run.apply foldRuns code ∈ sharedCodes ∨ 128 ≤ Run.apply foldRuns code := by
  have images : ∀ run ∈ foldRuns,
      128 ≤ run.image ∨ (run.first = run.last ∧ run.image ∈ sharedCodes) := by decide +kernel
  unfold Run.apply
  split
  · next run found =>
    have covers : run.covers code = true := by simpa using List.find?_some found
    simp only [Run.covers, Bool.and_eq_true, decide_eq_true_eq] at covers
    rcases images run (List.mem_of_find?_eq_some found) with above | ⟨single, shared⟩
    · right
      omega
    · left
      have same : code - run.first = 0 := by omega
      simpa [same] using shared
  · exact .inr h

theorem toNat_ofNat_of_pos (h : 0 < (Char.ofNat code).toNat) : (Char.ofNat code).toNat = code := by
  by_cases valid : code.isValidChar
  · rw [Char.ofNat, dif_pos valid]
    rfl
  · rw [Char.ofNat, dif_neg valid] at h
    exact absurd h (Nat.lt_irrefl 0)

/-- No character outside ASCII stands for a sign or for a letter that is not shared. -/
theorem toLower_of_fold_eq (h : fold c = d) (low : 0 < d.toNat) (high : d.toNat < 128)
    (unshared : d.toNat ∉ sharedCodes) : c.toLower = d := by
  unfold fold at h
  split at h
  · exact h
  · next above =>
    subst h
    have same := toNat_ofNat_of_pos low
    rw [same] at high unshared
    rcases apply_foldRuns (Nat.not_lt.mp above) with shared | outside
    · exact absurd shared unshared
    · omega

/-- A character of ASCII that only its own capital stands for, if it has one. -/
def isUnshared (c : Char) : Bool :=
  fold c = c ∧ 0 < c.toNat ∧ c.toNat < 128 ∧ c.toNat ∉ sharedCodes

theorem fold_of_isUnshared (h : isUnshared c = true) : fold c = c := (of_decide_eq_true h).1

theorem lowerAscii_eq_iff (h : isUnshared d = true) : lowerAscii c = d ↔ fold c = d := by
  obtain ⟨small, low, high, unshared⟩ := of_decide_eq_true h
  constructor
  · intro same
    unfold lowerAscii at same
    split at same
    · subst same
      exact absurd unshared (by decide)
    · rw [← fold_toLower, same, small]
  · intro same
    have lower := toLower_of_fold_eq same low high unshared
    have notKelvin : c.toNat ≠ 8490 := by
      intro kelvin
      rw [← Char.ofNat_toNat c, kelvin] at lower
      subst lower
      exact absurd high (by decide)
    rw [lowerAscii, if_neg notKelvin, lower]

theorem eq_or_eq_toUpper (c : Char) : c = c.toLower ∨ c = c.toLower.toUpper := by
  have capitals : ∀ n < 128, (Char.ofNat n).isUpper = true →
      Char.ofNat n = (Char.ofNat n).toLower.toUpper := by decide +kernel
  cases upper : c.isUpper with
  | false => exact .inl (toLower_of_not_isUpper upper).symm
  | true =>
    have : c.toNat ≤ 90 := (of_decide_eq_true upper).2
    have same := capitals c.toNat (by omega)
    rw [Char.ofNat_toNat] at same
    exact .inr (same upper)

def isSign (c : Char) : Bool := !c.isAlpha && 0 < c.toNat && c.toNat < 105

/-- A sign stands for itself alone. -/
theorem fold_eq_iff (h : isSign d = true) : fold c = d ↔ c = d := by
  simp only [isSign, Bool.and_eq_true, Bool.not_eq_true', decide_eq_true_eq] at h
  obtain ⟨⟨noLetter, low⟩, high⟩ := h
  constructor
  · intro same
    refine (toLower_eq_iff noLetter).mp (toLower_of_fold_eq same low (by omega) ?_)
    simp [sharedCodes]
    omega
  · rintro rfl
    rw [fold, if_pos (by omega)]
    exact (toLower_eq_iff noLetter).mpr rfl

end PatchReview.Text
