import PatchReview.Encoding.Percent
import PatchReview.Proofs.Encoding.Utf8

/-!
# Paths and their escapes

An encoded path is made of unreserved characters, slashes and escapes (`isEscaped_encode`), so
nothing in it ends the path of an address. The escapes are taken back octet by octet, and a path
is what its encoding is decoded to (`decode_encode`): no two paths are encoded alike.
-/

namespace PatchReview.Percent

-- ---------------------------------------------------------------------------
-- What encoded paths are made of
-- ---------------------------------------------------------------------------

def escapeDigits : List Char := "0123456789ABCDEF".toList

/-- Unreserved characters and slashes as they are, and escapes. -/
inductive IsEscaped : List Char → Prop
  | nil : IsEscaped []
  | plain (own : isUnreserved c = true ∨ c = '/') (rest : IsEscaped text) : IsEscaped (c :: text)
  | escape (isHigh : high ∈ escapeDigits) (isLow : low ∈ escapeDigits) (rest : IsEscaped text) :
      IsEscaped ('%' :: high :: low :: text)

def escapeDigit (value : Nat) : Char := (Nat.digitChar value).toUpper

theorem escape_eq (octet : UInt8) :
    escape octet = ['%', escapeDigit (octet.toNat / 16), escapeDigit (octet.toNat % 16)] := by
  have := octet.toNat_lt
  have high : octet.toNat / 16 % 16 = octet.toNat / 16 := Nat.mod_eq_of_lt (by omega)
  simp [escape, escapeDigit, Text.hexDigits, high]

theorem escapeDigit_mem (h : value < 16) : escapeDigit value ∈ escapeDigits := by
  have all : ∀ value < 16, escapeDigit value ∈ escapeDigits := by decide
  exact all value h

theorem hexValue?_escapeDigit (h : value < 16) : Text.hexValue? (escapeDigit value) = some value := by
  have all : ∀ value < 16, Text.hexValue? (escapeDigit value) = some value := by decide
  exact all value h

namespace IsEscaped

theorem append (first : IsEscaped text) (second : IsEscaped other) : IsEscaped (text ++ other) := by
  induction first with
  | nil => exact second
  | plain own _ ih => exact .plain own ih
  | escape isHigh isLow _ ih => exact .escape isHigh isLow ih

theorem flatMap {f : α → List Char} (each : ∀ a, IsEscaped (f a)) (l : List α) :
    IsEscaped (l.flatMap f) := by
  induction l with
  | nil => exact .nil
  | cons a rest ih => exact (each a).append ih

theorem not_mem (h : IsEscaped text) : '?' ∉ text ∧ '#' ∉ text := by
  have digits : '?' ∉ escapeDigits ∧ '#' ∉ escapeDigits := by decide
  induction h with
  | nil => exact ⟨List.not_mem_nil, List.not_mem_nil⟩
  | @plain c text own _ ih =>
    have query : '?' ≠ c := by
      rintro rfl
      exact absurd own (by decide)
    have fragment : '#' ≠ c := by
      rintro rfl
      exact absurd own (by decide)
    simp [query, fragment, ih]
  | @escape high low text isHigh isLow _ ih =>
    have ne {mark d : Char} (missing : mark ∉ escapeDigits) (isDigit : d ∈ escapeDigits) :
        mark ≠ d := fun same => missing (same ▸ isDigit)
    simp [ne digits.1 isHigh, ne digits.1 isLow, ne digits.2 isHigh, ne digits.2 isLow, ih]

end IsEscaped

theorem isEscaped_escape (octet : UInt8) : IsEscaped (escape octet) := by
  have := octet.toNat_lt
  rw [escape_eq]
  exact .escape (escapeDigit_mem (by omega)) (escapeDigit_mem (by omega)) .nil

theorem isEscaped_encodeChar (c : Char) : IsEscaped (encodeChar c) := by
  unfold encodeChar
  split
  · next own => exact .plain (by simpa using own) .nil
  · exact .flatMap isEscaped_escape _

theorem isEscaped_encode (path : List Char) : IsEscaped (encode path) :=
  .flatMap isEscaped_encodeChar path

-- ---------------------------------------------------------------------------
-- What they are decoded to
-- ---------------------------------------------------------------------------

theorem octets?_escape_append (octet : UInt8) (rest : List Char) :
    octets? (escape octet ++ rest) = (octets? rest).map (octet :: ·) := by
  have := octet.toNat_lt
  have number : (octet.toNat / 16 * 16 + octet.toNat % 16).toUInt8 = octet := by
    rw [Nat.div_add_mod']
    exact UInt8.ofNat_toNat
  rw [escape_eq, List.cons_append, List.cons_append, List.cons_append, List.nil_append, octets?,
    hexValue?_escapeDigit (by omega), hexValue?_escapeDigit (by omega)]
  cases octets? rest with
  | none => rfl
  | some others => exact congrArg (fun first => some (first :: others)) number

theorem octets?_escapes_append (octets : List UInt8) (rest : List Char) :
    octets? (octets.flatMap escape ++ rest) = (octets? rest).map (octets ++ ·) := by
  induction octets with
  | nil => simp
  | cons octet others ih =>
    rw [List.flatMap_cons, List.append_assoc, octets?_escape_append, ih, Option.map_map]
    rfl

theorem toNat_lt_of_isAlphanum {c : Char} (h : c.isAlphanum = true) : c.toNat < 128 := by
  have last : c.toNat ≤ 90 ∨ c.toNat ≤ 122 ∨ c.toNat ≤ 57 := by
    rcases Bool.or_eq_true_iff.mp h with letter | digit
    · rcases Bool.or_eq_true_iff.mp letter with upper | lower
      · exact .inl (of_decide_eq_true upper).2
      · exact .inr (.inl (of_decide_eq_true (Bool.and_eq_true_iff.mp lower).2))
    · exact .inr (.inr (of_decide_eq_true (Bool.and_eq_true_iff.mp digit).2))
  omega

theorem toNat_lt_of_own (own : isUnreserved c = true ∨ c = '/') : c.toNat < 128 := by
  rcases own with unreserved | rfl
  · simp only [isUnreserved, Bool.or_eq_true, beq_iff_eq] at unreserved
    rcases unreserved with (((letter | rfl) | rfl) | rfl) | rfl
    · exact toNat_lt_of_isAlphanum letter
    all_goals decide
  · decide

theorem octets?_cons_of_own (own : isUnreserved c = true ∨ c = '/') (rest : List Char) :
    octets? (c :: rest) = (octets? rest).map (c.toNat.toUInt8 :: ·) := by
  have small := toNat_lt_of_own own
  have noEscape : c ≠ '%' := by
    rintro rfl
    exact absurd own (by decide)
  rw [octets?.eq_def]
  split
  · next none => cases none
  · next escape => exact absurd (List.cons.inj escape).1 noEscape
  · next same =>
    cases same
    rw [if_neg (by simp [noEscape, small])]

theorem octets?_encodeChar_append (c : Char) (rest : List Char) :
    octets? (encodeChar c ++ rest) = (octets? rest).map (Utf8.encodeChar c ++ ·) := by
  unfold encodeChar
  split
  · next own =>
    have own : isUnreserved c = true ∨ c = '/' := by simpa using own
    have ascii : Utf8.encodeChar c = [c.toNat.toUInt8] := if_pos (toNat_lt_of_own own)
    rw [List.singleton_append, octets?_cons_of_own own, ascii]
    rfl
  · exact octets?_escapes_append _ _

theorem octets?_encode (path : List Char) : octets? (encode path) = some (Utf8.encode path) := by
  induction path with
  | nil => rfl
  | cons c rest ih =>
    rw [encode] at ih
    rw [encode, List.flatMap_cons, octets?_encodeChar_append, ih, Utf8.encode_cons]
    rfl

theorem decode_encode (path : List Char) : decode (encode path) = some path := by
  rw [decode, octets?_encode, Option.bind_some, Utf8.decode_encode]
  rfl

theorem encode_injective (same : encode path = encode other) : path = other := by
  simpa [decode_encode] using congrArg decode same

end PatchReview.Percent
