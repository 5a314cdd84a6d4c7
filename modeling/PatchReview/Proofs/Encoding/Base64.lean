import PatchReview.Encoding.Base64

/-!
# Octets and their letters

Four letters are read as the three octets that they were written for, and fewer octets end in
padding (`decodeFrom_encode`). Line feeds are skipped wherever they stand, also between the
characters of the padding, so octets are what any wrapped form of their letters is decoded to
(`decode_of_wrapped`).
-/

namespace PatchReview.Base64

-- ---------------------------------------------------------------------------
-- Letters
-- ---------------------------------------------------------------------------

section

variable {n : Nat}

theorem sextet?_letter (h : n < 64) : sextet? (letter n) = some n := by
  have all : ∀ n < 64, sextet? (letter n) = some n := by decide +kernel
  exact all n h

theorem letter_ne_padding (h : n < 64) : letter n ≠ '=' := by
  intro same
  have none : sextet? '=' = none := by decide
  rw [← same, sextet?_letter h] at none
  cases none

theorem decodeFrom_letter (h : n < 64) (group : Group) (written : Nat) (rest : List Char) :
    decodeFrom group written (letter n :: rest) =
      match group with
      | .empty => decodeFrom (.one n) written rest
      | .one bits =>
        (decodeFrom (.two (n % 16) false) (written + 1) rest).map
          ((bits * 4 + n / 16).toUInt8 :: ·)
      | .two bits _ =>
        (decodeFrom (.three (n % 4)) (written + 1) rest).map ((bits * 16 + n / 4).toUInt8 :: ·)
      | .three bits =>
        (decodeFrom .empty (written + 1) rest).map ((bits * 64 + n).toUInt8 :: ·) := by
  rw [decodeFrom.eq_def]
  cases group <;> simp [letter_ne_padding h, sextet?_letter h]

end

-- ---------------------------------------------------------------------------
-- Octets
-- ---------------------------------------------------------------------------

theorem toUInt8_of_eq (octet : UInt8) {n : Nat} (h : n = octet.toNat) : n.toUInt8 = octet := by
  rw [h]
  exact UInt8.ofNat_toNat

theorem decodeFrom_encode (octets : List UInt8) (written : Nat) :
    decodeFrom .empty written (encode octets) = .ok octets := by
  induction octets using encode.induct generalizing written with
  | case1 => rfl
  | case2 a =>
    have := a.toNat_lt
    simp only [encode, decodeFrom_letter (show a.toNat / 4 < 64 by omega),
      decodeFrom_letter (show a.toNat % 4 * 16 < 64 by omega)]
    rw [toUInt8_of_eq a (by omega)]
    rfl
  | case3 a b =>
    have := a.toNat_lt
    have := b.toNat_lt
    simp only [encode, decodeFrom_letter (show a.toNat / 4 < 64 by omega),
      decodeFrom_letter (show a.toNat % 4 * 16 + b.toNat / 16 < 64 by omega),
      decodeFrom_letter (show b.toNat % 16 * 4 < 64 by omega)]
    rw [toUInt8_of_eq a (by omega), toUInt8_of_eq b (by omega)]
    rfl
  | case4 a b c rest ih =>
    have := a.toNat_lt
    have := b.toNat_lt
    have := c.toNat_lt
    simp only [encode, decodeFrom_letter (show a.toNat / 4 < 64 by omega),
      decodeFrom_letter (show a.toNat % 4 * 16 + b.toNat / 16 < 64 by omega),
      decodeFrom_letter (show b.toNat % 16 * 4 + c.toNat / 64 < 64 by omega),
      decodeFrom_letter (show c.toNat % 64 < 64 by omega), ih]
    rw [toUInt8_of_eq a (by omega), toUInt8_of_eq b (by omega),
      toUInt8_of_eq c (by omega)]
    rfl

theorem toNat_letter_lt (n : Nat) : (letter n).toNat < 128 := by
  have ascii : alphabet.all (·.toNat < 128) = true := by decide
  rw [List.all_eq_true] at ascii
  rw [letter, List.getD_eq_getElem?_getD]
  cases found : alphabet[n]? with
  | none => decide
  | some c => exact of_decide_eq_true (ascii c (List.mem_of_getElem? found))

theorem toNat_lt_of_mem_encode (octets : List UInt8) : ∀ c ∈ encode octets, c.toNat < 128 := by
  induction octets using encode.induct with
  | case1 => exact List.forall_mem_nil _
  | case2 a => simp [encode, toNat_letter_lt]
  | case3 a b => simp [encode, toNat_letter_lt]
  | case4 a b c rest ih => simpa [encode, toNat_letter_lt] using ih

-- ---------------------------------------------------------------------------
-- Line feeds
-- ---------------------------------------------------------------------------

/-- A text that the letters of some octets become by line feeds at any places. -/
def IsWrapped (octets : List UInt8) (text : List Char) : Prop :=
  text.filter (· != '\n') = encode octets

instance (octets : List UInt8) (text : List Char) : Decidable (IsWrapped octets text) :=
  inferInstanceAs (Decidable (_ = _))

theorem decodeFrom_lineFeed (group : Group) (written : Nat) (rest : List Char) :
    decodeFrom group written ('\n' :: rest) = decodeFrom group written rest := by
  have skipped : sextet? '\n' = none := by decide
  have other : '\n' ≠ '=' := by decide
  rw [decodeFrom.eq_def]
  simp only [other, skipped, if_false]

theorem decodeFrom_filter (group : Group) (written : Nat) (text : List Char) :
    decodeFrom group written (text.filter (· != '\n')) = decodeFrom group written text := by
  induction text generalizing group written with
  | nil => rfl
  | cons c rest ih =>
    by_cases feed : c = '\n'
    · subst feed
      rw [List.filter_cons_of_neg (by decide), ih, decodeFrom_lineFeed]
    · rw [List.filter_cons_of_pos (by simpa using feed), decodeFrom.eq_def, decodeFrom.eq_def]
      simp only [ih]

theorem decode_of_wrapped (h : IsWrapped octets text) : decode text = .ok octets := by
  have ascii : text.all (·.toNat < 128) = true := by
    rw [List.all_eq_true]
    intro c among
    by_cases feed : c = '\n'
    · subst feed
      decide
    · have kept : c ∈ text.filter (· != '\n') := List.mem_filter.mpr ⟨among, by simpa using feed⟩
      rw [h] at kept
      simpa using toNat_lt_of_mem_encode octets c kept
  rw [decode, ascii, if_pos rfl, ← decodeFrom_filter, h, decodeFrom_encode]

end PatchReview.Base64
