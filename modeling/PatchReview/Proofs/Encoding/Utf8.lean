import PatchReview.Encoding.Utf8

/-!
# Texts and their octets

The octets of a character are read as that character, whatever follows them: none of them is
overlong, a surrogate or too large. So a text is what its octets are decoded to
(`decode_encode`).
-/

namespace PatchReview.Utf8

-- ---------------------------------------------------------------------------
-- Octets by their numbers
-- ---------------------------------------------------------------------------

section

variable {n first second : Nat}

theorem toNat_toUInt8 (h : n < 256) : n.toUInt8.toNat = n := by
  rw [Nat.toUInt8, UInt8.toNat_ofNat']
  exact Nat.mod_eq_of_lt h

theorem width_toUInt8 (h : n < 256) :
    width n.toUInt8 =
      if n < 0x80 then 1 else if n < 0xC2 then 0 else if n < 0xE0 then 2
      else if n < 0xF0 then 3 else if n < 0xF5 then 4 else 0 := by
  simp only [width, UInt8.lt_iff_toNat_lt, toNat_toUInt8 h]
  rfl

theorem isTail_toUInt8 (low : 0x80 ≤ n) (high : n ≤ 0xBF) : isTail n.toUInt8 = true := by
  have value := toNat_toUInt8 (n := n) (by omega)
  simp only [isTail, UInt8.le_iff_toNat_le, value, Bool.and_eq_true, decide_eq_true_eq]
  exact ⟨low, high⟩

theorem tailBits_toUInt8 (low : 0x80 ≤ n) (high : n ≤ 0xBF) : tailBits n.toUInt8 = n - 0x80 := by
  rw [tailBits, toNat_toUInt8 (by omega)]
  omega

theorem mayFollow_toUInt8 (small : first < 256) (low : 0x80 ≤ second) (high : second ≤ 0xBF)
    (long : first = 0xE0 → 0xA0 ≤ second) (surrogate : first = 0xED → second < 0xA0)
    (longer : first = 0xF0 → 0x90 ≤ second) (large : first = 0xF4 → second < 0x90) :
    mayFollow first.toUInt8 second.toUInt8 = true := by
  have follower := toNat_toUInt8 (n := second) (by omega)
  have is (octet : UInt8) : first.toUInt8 = octet ↔ first = octet.toNat := by
    rw [← UInt8.toNat_inj, toNat_toUInt8 small]
  simp only [mayFollow, isTail_toUInt8 low high, UInt8.le_iff_toNat_le, UInt8.lt_iff_toNat_lt,
    follower, Bool.true_and, Bool.and_eq_true, Bool.not_eq_true', Bool.and_eq_false_iff,
    beq_eq_false_iff_ne, decide_eq_false_iff_not, ne_eq, is, UInt8.reduceToNat]
  omega

-- ---------------------------------------------------------------------------
-- One character
-- ---------------------------------------------------------------------------

theorem next_one (small : n < 0x80) (rest : List UInt8) :
    next n.toUInt8 rest = .ok (Char.ofNat n, rest) := by
  have one : width n.toUInt8 = 1 := by rw [width_toUInt8 (by omega), if_pos small]
  simp only [next, one, toNat_toUInt8 (n := n) (by omega)]

theorem next_two (low : 0x80 ≤ n) (high : n < 0x800) (rest : List UInt8) :
    next (0xC0 + n / 64).toUInt8 ((0x80 + n % 64).toUInt8 :: rest) = .ok (Char.ofNat n, rest) := by
  have two : width (0xC0 + n / 64).toUInt8 = 2 := by
    rw [width_toUInt8 (by omega), if_neg (by omega), if_neg (by omega), if_pos (by omega)]
  have follows : mayFollow (0xC0 + n / 64).toUInt8 (0x80 + n % 64).toUInt8 = true := by
    apply mayFollow_toUInt8 <;> omega
  have number : (0xC0 + n / 64) % 32 * 64 + (0x80 + n % 64 - 0x80) = n := by omega
  simp only [next, two, follows, if_true, toNat_toUInt8 (show 0xC0 + n / 64 < 256 by omega),
    tailBits_toUInt8 (show 0x80 ≤ 0x80 + n % 64 by omega) (by omega), number]

theorem next_three (low : 0x800 ≤ n) (high : n < 0x10000) (whole : n < 0xD800 ∨ 0xDFFF < n)
    (rest : List UInt8) :
    next (0xE0 + n / 4096).toUInt8
        ((0x80 + n / 64 % 64).toUInt8 :: (0x80 + n % 64).toUInt8 :: rest) =
      .ok (Char.ofNat n, rest) := by
  have three : width (0xE0 + n / 4096).toUInt8 = 3 := by
    rw [width_toUInt8 (by omega), if_neg (by omega), if_neg (by omega), if_neg (by omega),
      if_pos (by omega)]
  have follows : mayFollow (0xE0 + n / 4096).toUInt8 (0x80 + n / 64 % 64).toUInt8 = true := by
    apply mayFollow_toUInt8 <;> omega
  have third : isTail (0x80 + n % 64).toUInt8 = true := by apply isTail_toUInt8 <;> omega
  have number : (0xE0 + n / 4096) % 16 * 4096 + (0x80 + n / 64 % 64 - 0x80) * 64 +
      (0x80 + n % 64 - 0x80) = n := by omega
  simp only [next, three, follows, third, Bool.not_true, Bool.false_eq_true, if_false,
    toNat_toUInt8 (show 0xE0 + n / 4096 < 256 by omega),
    tailBits_toUInt8 (show 0x80 ≤ 0x80 + n / 64 % 64 by omega) (by omega),
    tailBits_toUInt8 (show 0x80 ≤ 0x80 + n % 64 by omega) (by omega), number]

theorem next_four (low : 0x10000 ≤ n) (high : n < 0x110000) (rest : List UInt8) :
    next (0xF0 + n / 262144).toUInt8
        ((0x80 + n / 4096 % 64).toUInt8 :: (0x80 + n / 64 % 64).toUInt8 ::
          (0x80 + n % 64).toUInt8 :: rest) =
      .ok (Char.ofNat n, rest) := by
  have four : width (0xF0 + n / 262144).toUInt8 = 4 := by
    rw [width_toUInt8 (by omega), if_neg (by omega), if_neg (by omega), if_neg (by omega),
      if_neg (by omega), if_pos (by omega)]
  have follows : mayFollow (0xF0 + n / 262144).toUInt8 (0x80 + n / 4096 % 64).toUInt8 = true := by
    apply mayFollow_toUInt8 <;> omega
  have third : isTail (0x80 + n / 64 % 64).toUInt8 = true := by apply isTail_toUInt8 <;> omega
  have fourth : isTail (0x80 + n % 64).toUInt8 = true := by apply isTail_toUInt8 <;> omega
  have number : (0xF0 + n / 262144) % 8 * 262144 + (0x80 + n / 4096 % 64 - 0x80) * 4096 +
      (0x80 + n / 64 % 64 - 0x80) * 64 + (0x80 + n % 64 - 0x80) = n := by omega
  simp only [next, four, follows, third, fourth, Bool.not_true, Bool.false_eq_true, if_false,
    toNat_toUInt8 (show 0xF0 + n / 262144 < 256 by omega),
    tailBits_toUInt8 (show 0x80 ≤ 0x80 + n / 4096 % 64 by omega) (by omega),
    tailBits_toUInt8 (show 0x80 ≤ 0x80 + n / 64 % 64 by omega) (by omega),
    tailBits_toUInt8 (show 0x80 ≤ 0x80 + n % 64 by omega) (by omega), number]

end

theorem next_encodeChar (c : Char) (rest : List UInt8) :
    ∃ first tail, encodeChar c = first :: tail ∧ next first (tail ++ rest) = .ok (c, rest) := by
  have range : c.toNat < 0xD800 ∨ 0xDFFF < c.toNat ∧ c.toNat < 0x110000 := c.valid
  have same : Char.ofNat c.toNat = c := c.ofNat_toNat
  unfold encodeChar
  dsimp only
  split
  · next one => exact ⟨_, _, rfl, by rw [List.nil_append, next_one one, same]⟩
  · split
    · next two => exact ⟨_, _, rfl, by simpa [same] using next_two (by omega) two rest⟩
    · split
      · next three =>
        exact ⟨_, _, rfl, by simpa [same] using next_three (by omega) three (by omega) rest⟩
      · exact ⟨_, _, rfl, by simpa [same] using next_four (n := c.toNat) (by omega) (by omega) rest⟩

-- ---------------------------------------------------------------------------
-- Texts
-- ---------------------------------------------------------------------------

theorem encode_cons (c : Char) (text : List Char) : encode (c :: text) = encodeChar c ++ encode text :=
  List.flatMap_cons

theorem decodeFrom_encode (text : List Char) (offset : Nat) :
    decodeFrom offset (encode text) = .ok text := by
  induction text generalizing offset with
  | nil => rw [encode, List.flatMap_nil, decodeFrom]
  | cons c rest ih =>
    obtain ⟨first, tail, octets, read⟩ := next_encodeChar c (encode rest)
    rw [encode_cons, octets, List.cons_append, decodeFrom]
    split
    · next failed => cases failed.symm.trans read
    · next found =>
      cases found.symm.trans read
      rw [ih]

theorem decode_encode (text : List Char) : decode (encode text) = .ok text :=
  decodeFrom_encode text 0

end PatchReview.Utf8
