import Mathlib.Data.List.TakeWhile
import PatchReview.Json.Reader
import PatchReview.Proofs.Text.Blank

/-!
# What the reader takes for a string, a number or a word

Each reader takes a piece off the front of a text and leaves the rest. What it
finds depends on the piece alone as long as the rest is cut short and not
continued: a number goes on as far as it can (`Token`). A string ends at its
quote, whatever follows.
-/

namespace PatchReview.Json

open Text (digitRun isBlank)

variable {α β : Type} {text short left : List Char}

-- ---------------------------------------------------------------------------
-- Characters
-- ---------------------------------------------------------------------------

/-- The visible ASCII characters but the one of code fences. -/
def isInk (c : Char) : Bool := 32 < c.toNat && c.toNat < 127 && c != '`'

def opensValue (c : Char) : Bool := c.isDigit || "\"[\x7b-ntfNI".toList.contains c

theorem isInk_of_isDigit (h : c.isDigit = true) : isInk c = true := by
  have range : 48 ≤ c.toNat ∧ c.toNat ≤ 57 := by simpa [Char.isDigit, UInt32.le_iff_toNat_le] using h
  have noTick : c ≠ '`' := by
    rintro rfl
    revert h
    decide
  simp only [isInk, Bool.and_eq_true, decide_eq_true_eq, bne_iff_ne]
  exact ⟨⟨by omega, by omega⟩, noTick⟩

theorem isInk_of_opensValue (h : opensValue c = true) : isInk c = true := by
  obtain digit | opener := Bool.or_eq_true_iff.mp h
  · exact isInk_of_isDigit digit
  · have all : "\"[\x7b-ntfNI".toList.all isInk = true := by decide
    exact List.all_eq_true.mp all c (List.contains_iff_mem.mp opener)

theorem isBlank_of_isInk (h : isInk c = true) : isBlank c = false := by
  simp only [isInk, Bool.and_eq_true, decide_eq_true_eq] at h
  exact Text.isBlank_eq_false_of_between h.1.1 (by omega)

theorem isBlank_of_isJsonSpace (h : isJsonSpace c = true) : isBlank c = true := by
  simp only [isJsonSpace, Bool.or_eq_true, beq_iff_eq] at h
  obtain ((rfl | rfl) | rfl) | rfl := h <;> decide

-- ---------------------------------------------------------------------------
-- Runs of characters
-- ---------------------------------------------------------------------------

theorem span_append (inSet : Char → Bool) (text : List Char)
    (cut : short <+: text.dropWhile inSet) :
    (text.takeWhile inSet ++ short).takeWhile inSet = text.takeWhile inSet ∧
      (text.takeWhile inSet ++ short).dropWhile inSet = short := by
  have all : ∀ c ∈ text.takeWhile inSet, inSet c = true := fun c hc => List.mem_takeWhile_imp hc
  have stop : short.takeWhile inSet = [] ∧ short.dropWhile inSet = short := by
    cases short with
    | nil => exact ⟨rfl, rfl⟩
    | cons c rest =>
      obtain ⟨more, whole⟩ := cut
      have outside := List.head?_dropWhile_not inSet text
      rw [← whole] at outside
      have outside : inSet c = false := outside
      exact ⟨List.takeWhile_cons_of_neg (by simp [outside]),
        List.dropWhile_cons_of_neg (by simp [outside])⟩
  rw [List.takeWhile_append_of_pos all, List.dropWhile_append_of_pos all, stop.1, stop.2,
    List.append_nil]
  exact ⟨rfl, rfl⟩

theorem skipSpace_skips (text : List Char) :
    ∃ spaces, text = spaces ++ skipSpace text ∧
      ∀ short, short <+: skipSpace text → skipSpace (spaces ++ short) = short :=
  ⟨text.takeWhile isJsonSpace, List.takeWhile_append_dropWhile.symm, fun _ cut =>
    (span_append isJsonSpace text cut).2⟩

theorem skipSpace_cons (h : skipSpace text = c :: left) :
    ∃ spaces, text = spaces ++ c :: left ∧
      ∀ short, short <+: left → skipSpace (spaces ++ c :: short) = c :: short := by
  obtain ⟨spaces, split, skip⟩ := skipSpace_skips text
  rw [h] at split skip
  exact ⟨spaces, split, fun short cut => skip _ (List.cons_prefix_cons.mpr ⟨rfl, cut⟩)⟩

theorem skipSpace_delimiter (h : skipSpace text = c :: more) :
    ∃ gap, text = gap ++ skipSpace more ∧
      ∀ short, short <+: skipSpace more →
        ∃ after, skipSpace (gap ++ short) = c :: after ∧ skipSpace after = short := by
  obtain ⟨before, rfl, skipBefore⟩ := skipSpace_cons h
  obtain ⟨after, split, skipAfter⟩ := skipSpace_skips more
  refine ⟨before ++ c :: after, ?_, fun short cut => ⟨after ++ short, ?_, skipAfter short cut⟩⟩
  · conv => lhs; rw [split]
    simp
  · rw [List.append_assoc]
    refine skipBefore _ ?_
    conv => rhs; rw [split]
    exact (List.prefix_append_right_inj after).mpr cut

-- ---------------------------------------------------------------------------
-- Strings
-- ---------------------------------------------------------------------------

theorem bind_eq_ok {ε : Type} {x : Except ε α} {next : α → Except ε β} :
    x >>= next = .ok b ↔ ∃ a, x = .ok a ∧ next a = .ok b := by
  cases x <;> simp [bind, Except.bind]

theorem pure_eq_ok {ε : Type} : (pure a : Except ε α) = .ok b ↔ a = b := by
  simp [pure, Except.pure]

theorem partBefore_eq_ok {part : StringPart}
    {others : Except ReadFault (List StringPart × List Char)}
    (h : (do let (parts, left) ← others; return (part :: parts, left)) = .ok (parts, left)) :
    ∃ rest, others = .ok (rest, left) ∧ parts = part :: rest := by
  obtain ⟨⟨rest, _⟩, read, h⟩ := bind_eq_ok.mp h
  cases pure_eq_ok.mp h
  exact ⟨rest, read, rfl⟩

/-- A string takes what is up to its closing quote, whatever follows. -/
theorem stringParts_takes (h : stringParts opened text = .ok (parts, left)) :
    ∃ used, text = used ++ '"' :: left ∧
      ∀ there rest, stringParts there (used ++ '"' :: rest) = .ok (parts, rest) := by
  fun_induction stringParts opened text generalizing parts left with
  | case1 | case3 | case5 | case6 | case8 | case9 => cases h
  | case2 rest =>
    cases h
    exact ⟨[], rfl, fun _ _ => by simp [stringParts]⟩
  | case4 a b c d e rest unit hunit ih =>
    obtain ⟨others, read, rfl⟩ := partBefore_eq_ok h
    obtain ⟨used, split, again⟩ := ih read
    refine ⟨'\\' :: 'u' :: a :: b :: c :: d :: used, by rw [split]; rfl, fun there rest => ?_⟩
    have again := again there rest
    -- One more character has to follow the four digits, and the quote is one.
    cases used with
    | nil =>
      simp only [List.cons_append, List.nil_append] at again ⊢
      simp only [stringParts, hunit, again]
      rfl
    | cons =>
      simp only [List.cons_append] at again ⊢
      simp only [stringParts, hunit, again]
      rfl
  | case7 c rest plain escaped simple ih =>
    obtain ⟨others, read, rfl⟩ := partBefore_eq_ok h
    obtain ⟨used, split, again⟩ := ih read
    refine ⟨'\\' :: c :: used, by rw [split]; rfl, fun there rest => ?_⟩
    simp only [List.cons_append, stringParts, simple, again]
    rfl
  | case10 c rest noQuote noEnd noUnit noEscape seen ih =>
    obtain ⟨others, read, rfl⟩ := partBefore_eq_ok h
    obtain ⟨used, split, again⟩ := ih read
    have noBackslash : c ≠ '\\' := by
      intro same
      cases rest with
      | nil => exact noEnd same rfl
      | cons d rest => exact noEscape d rest same rfl
    refine ⟨c :: used, by rw [split]; rfl, fun there rest => ?_⟩
    rw [List.cons_append, stringParts]
    · simp only [if_neg seen, again]
      rfl
    · exact noQuote
    · exact fun same _ => noBackslash same
    · exact fun _ same _ => noBackslash same
    · exact fun _ _ same _ => noBackslash same

theorem string_takes (h : string text = .ok (parts, left)) :
    ∃ used, text = used ++ '"' :: left ∧
      ∀ rest, string (used ++ '"' :: rest) = .ok (parts, rest) := by
  obtain ⟨used, split, again⟩ := stringParts_takes h
  exact ⟨used, split, fun rest => again _ rest⟩

-- ---------------------------------------------------------------------------
-- Numbers
-- ---------------------------------------------------------------------------

/-- The piece that a reader of visible characters takes off a text. -/
structure Token (read result : List Char → β) (text used left : List Char) : Prop where
  split : text = used ++ left
  ink : ∀ c ∈ used, isInk c = true
  again : ∀ short, short <+: left → read (used ++ short) = result short

theorem digitRun_takes (h : digitRun text = (digits, left)) :
    Token digitRun (digits, ·) text digits left := by
  obtain ⟨rfl, rfl⟩ := Prod.mk.inj h
  refine ⟨List.takeWhile_append_dropWhile.symm, fun c hc => ?_, fun short cut => ?_⟩
  · exact isInk_of_isDigit (List.mem_takeWhile_imp hc)
  · obtain ⟨taken, dropped⟩ := span_append Char.isDigit text cut
    rw [digitRun, taken, dropped]

theorem fractionPart_takes (h : fractionPart text = (fraction, left)) :
    ∃ used, Token fractionPart (fraction, ·) text used left := by
  unfold fractionPart at h
  split at h
  · next rest =>
    cases run : digitRun rest with
    | mk digits after =>
      obtain ⟨split, ink, again⟩ := digitRun_takes run
      rw [run] at h
      cases digits with
      | nil =>
        cases h
        refine ⟨[], rfl, nofun, fun short cut => ?_⟩
        cases short with
        | nil => rfl
        | cons c short =>
          obtain ⟨rfl, tail⟩ := List.cons_prefix_cons.mp cut
          have none_left : digitRun short = ([], short) := again short (by rwa [split] at tail)
          simp [fractionPart, none_left]
      | cons d digits =>
        cases h
        refine ⟨'.' :: d :: digits, by rw [split]; rfl, ?_, fun short cut => ?_⟩
        · exact List.forall_mem_cons.mpr ⟨by decide, ink⟩
        · have found := again short cut
          rw [List.cons_append] at found ⊢
          simp [fractionPart, found]
  · next other =>
    cases h
    refine ⟨[], rfl, nofun, fun short cut => ?_⟩
    obtain ⟨more, rfl⟩ := cut
    have noPoint (rest : List Char) : short ≠ '.' :: rest := by
      rintro rfl
      exact other (rest ++ more) rfl
    rw [List.nil_append]
    unfold fractionPart
    split
    · next same => exact absurd rfl (noPoint _)
    · rfl

def unsignedExponent? (negative : Bool) (text : List Char) : Option (Int × List Char) :=
  match digitRun text with
  | ([], _) => none
  | (found, left) =>
    let size : Int := Text.digitRunValue found
    some (if negative then -size else size, left)

theorem exponentDigits?_cons (c : Char) (rest : List Char) :
    exponentDigits? (c :: rest) =
      if c = '-' then unsignedExponent? true rest
      else if c = '+' then unsignedExponent? false rest
      else unsignedExponent? false (c :: rest) := by
  by_cases minus : c = '-'
  · subst minus
    rfl
  · by_cases plus : c = '+'
    · subst plus
      rfl
    · rw [if_neg minus, if_neg plus]
      unfold exponentDigits?
      split
      next same =>
        split at same
        · next eq => exact absurd (List.cons.inj eq).1 minus
        · next eq => exact absurd (List.cons.inj eq).1 plus
        · cases same
          rfl

theorem unsignedExponent?_takes (h : unsignedExponent? negative text = some (exponent, left)) :
    ∃ d used, Token (unsignedExponent? negative) (fun left => some (exponent, left)) text
      (d :: used) left := by
  cases run : digitRun text with
  | mk digits after =>
    obtain ⟨split, ink, again⟩ := digitRun_takes run
    rw [unsignedExponent?, run] at h
    cases digits with
    | nil => cases h
    | cons d digits =>
      cases h
      refine ⟨d, digits, split, ink, fun short cut => ?_⟩
      rw [unsignedExponent?, again short cut]

theorem unsignedExponent?_none (h : unsignedExponent? negative text = none) (cut : short <+: text) :
    unsignedExponent? negative short = none := by
  cases run : digitRun text with
  | mk digits after =>
    obtain ⟨split, -, again⟩ := digitRun_takes run
    rw [unsignedExponent?, run] at h
    cases digits with
    | nil =>
      have none_left : digitRun short = ([], short) := again short (by rwa [split] at cut)
      rw [unsignedExponent?, none_left]
    | cons => cases h

theorem exponentDigits?_takes (h : exponentDigits? text = some (exponent, left)) :
    ∃ used, Token exponentDigits? (fun left => some (exponent, left)) text used left := by
  cases text with
  | nil => cases h
  | cons c rest =>
    rw [exponentDigits?_cons] at h
    split at h
    · next minus =>
      obtain ⟨d, used, split, ink, again⟩ := unsignedExponent?_takes h
      subst minus
      exact ⟨'-' :: d :: used, by rw [split]; rfl, List.forall_mem_cons.mpr ⟨by decide, ink⟩, again⟩
    · split at h
      · next plus =>
        obtain ⟨d, used, split, ink, again⟩ := unsignedExponent?_takes h
        subst plus
        exact ⟨'+' :: d :: used, by rw [split]; rfl, List.forall_mem_cons.mpr ⟨by decide, ink⟩,
          again⟩
      · next minus plus =>
        obtain ⟨d, used, split, ink, again⟩ := unsignedExponent?_takes h
        obtain ⟨rfl, -⟩ := List.cons.inj split
        refine ⟨c :: used, split, ink, fun short cut => ?_⟩
        rw [List.cons_append, exponentDigits?_cons, if_neg minus, if_neg plus]
        exact again short cut

theorem exponentDigits?_none (h : exponentDigits? text = none) (cut : short <+: text) :
    exponentDigits? short = none := by
  cases short with
  | nil => rfl
  | cons c short =>
    obtain ⟨more, rfl⟩ := cut
    rw [List.cons_append, exponentDigits?_cons] at h
    rw [exponentDigits?_cons]
    split
    · next minus =>
      rw [if_pos minus] at h
      exact unsignedExponent?_none h ⟨more, rfl⟩
    · next minus =>
      rw [if_neg minus] at h
      split
      · next plus =>
        rw [if_pos plus] at h
        exact unsignedExponent?_none h ⟨more, rfl⟩
      · next plus =>
        rw [if_neg plus] at h
        exact unsignedExponent?_none h ⟨more, rfl⟩

theorem exponentPart?_takes (h : exponentPart? text = some (exponent, left)) :
    ∃ used, Token exponentPart? (fun left => some (exponent, left)) text used left := by
  unfold exponentPart? at h
  split at h
  · obtain ⟨used, split, ink, again⟩ := exponentDigits?_takes h
    exact ⟨'e' :: used, by rw [split]; rfl, List.forall_mem_cons.mpr ⟨by decide, ink⟩, again⟩
  · obtain ⟨used, split, ink, again⟩ := exponentDigits?_takes h
    exact ⟨'E' :: used, by rw [split]; rfl, List.forall_mem_cons.mpr ⟨by decide, ink⟩, again⟩
  · cases h

theorem exponentPart?_none (h : exponentPart? text = none) (cut : short <+: text) :
    exponentPart? short = none := by
  obtain ⟨more, rfl⟩ := cut
  unfold exponentPart?
  split
  · next rest =>
    have h : exponentDigits? (rest ++ more) = none := h
    exact exponentDigits?_none h ⟨more, rfl⟩
  · next rest =>
    have h : exponentDigits? (rest ++ more) = none := h
    exact exponentDigits?_none h ⟨more, rfl⟩
  · rfl

theorem numberFrom_takes (h : numberFrom negative whole text = .ok (found, left)) :
    ∃ used, Token (numberFrom negative whole) (fun left => .ok (found, left)) text used left := by
  cases part : fractionPart text with
  | mk fraction after =>
  obtain ⟨point, splitPoint, inkPoint, againPoint⟩ := fractionPart_takes part
  simp only [numberFrom, part] at h
  cases power : exponentPart? after with
  | some result =>
    obtain ⟨exponent, rest⟩ := result
    obtain ⟨used, splitPower, inkPower, againPower⟩ := exponentPart?_takes power
    rw [power] at h
    cases h
    refine ⟨point ++ used, by rw [splitPoint, splitPower, List.append_assoc],
      List.forall_mem_append.mpr ⟨inkPoint, inkPower⟩, fun short cut => ?_⟩
    have first := againPoint (used ++ short) (by
      rw [splitPower]
      exact (List.prefix_append_right_inj used).mpr cut)
    simp only [numberFrom, List.append_assoc, first, againPower short cut]
  | none =>
    rw [power] at h
    dsimp only at h
    split at h
    · next wholeOnly =>
      split at h
      · cases h
      · next few =>
        cases h
        refine ⟨point, splitPoint, inkPoint, fun short cut => ?_⟩
        simp only [numberFrom, againPoint short cut, exponentPart?_none power cut, wholeOnly, few,
          ↓reduceIte]
    · next fractional =>
      cases h
      refine ⟨point, splitPoint, inkPoint, fun short cut => ?_⟩
      simp only [numberFrom, againPoint short cut, exponentPart?_none power cut, fractional,
        Bool.false_eq_true, ↓reduceIte]

theorem number?_takes (h : number? negative text = some (.ok (found, left))) :
    ∃ d used, d.isDigit = true ∧
      Token (number? negative) (fun left => some (.ok (found, left))) text (d :: used) left := by
  unfold number? at h
  split at h
  · next rest =>
    obtain ⟨used, split, ink, again⟩ := numberFrom_takes (Option.some.inj h)
    exact ⟨'0', used, rfl, by rw [split]; rfl, List.forall_mem_cons.mpr ⟨by decide, ink⟩,
      fun short cut => congrArg some (again short cut)⟩
  · next noZero =>
    cases run : digitRun text with
    | mk whole rest =>
      rw [run] at h
      cases whole with
      | nil => cases h
      | cons d digits =>
        obtain ⟨rfl, inkWhole, againWhole⟩ := digitRun_takes run
        obtain ⟨used, rfl, ink, again⟩ := numberFrom_takes (Option.some.inj h)
        have first : d ∈ (d :: digits ++ (used ++ left)).takeWhile Char.isDigit := by
          rw [show (d :: digits ++ (used ++ left)).takeWhile Char.isDigit = d :: digits from
            congrArg Prod.fst run]
          exact List.mem_cons_self
        have inkAll : ∀ c ∈ d :: digits ++ used, isInk c = true :=
          List.forall_mem_append.mpr ⟨inkWhole, ink⟩
        refine ⟨d, digits ++ used, List.mem_takeWhile_imp first, by simp, inkAll,
          fun short cut => ?_⟩
        have digitsAgain := againWhole (used ++ short) ((List.prefix_append_right_inj used).mpr cut)
        rw [List.cons_append, List.append_assoc, ← List.cons_append]
        unfold number?
        split
        · next same => exact absurd (by rw [← (List.cons.inj same).1]; rfl) (noZero _)
        · rw [digitsAgain]
          exact congrArg some (again short cut)

-- ---------------------------------------------------------------------------
-- Values that hold no others
-- ---------------------------------------------------------------------------

theorem scalar_digit (h : d.isDigit = true) (rest : List Char) :
    scalar (d :: rest) =
      (number? false (d :: rest)).getD (.error (.grammar .value (d :: rest).length)) := by
  unfold scalar
  split
  case h_8 => rfl
  all_goals
    rename_i same
    rw [(List.cons.inj same).1] at h
    exact absurd h (by decide)

theorem scalar_minus (h : d.isDigit = true) (rest : List Char) :
    scalar ('-' :: d :: rest) =
      (number? true (d :: rest)).getD (.error (.grammar .value ('-' :: d :: rest).length)) := by
  unfold scalar
  split
  case h_6 same =>
    -- The letter of `-Infinity` is no digit.
    rw [(List.cons.inj (List.cons.inj same).2).1] at h
    exact absurd h (by decide)
  case h_7 same =>
    cases same
    rfl
  case h_8 other => exact absurd rfl (other (d :: rest))
  all_goals
    rename_i same
    exact absurd (List.cons.inj same).1 (by decide)

theorem eq_ok_of_getD {x : Option (Except ε α)} (h : x.getD (.error e) = .ok a) :
    x = some (.ok a) := by
  cases x with
  | none => cases h
  | some y => exact congrArg some h

theorem scalar_takes (h : scalar text = .ok (found, left)) :
    ∃ c used, opensValue c = true ∧
      Token scalar (fun left => .ok (found, left)) text (c :: used) left := by
  have opens {d : Char} (digit : d.isDigit = true) : opensValue d = true := by
    simp [opensValue, digit]
  unfold scalar at h
  split at h
  case h_7 rest _ =>
    obtain ⟨d, used, digit, split, ink, again⟩ := number?_takes (eq_ok_of_getD h)
    refine ⟨'-', d :: used, by decide, by rw [split]; rfl, List.forall_mem_cons.mpr ⟨by decide, ink⟩,
      fun short cut => ?_⟩
    have again := again short cut
    rw [List.cons_append] at again
    rw [List.cons_append, List.cons_append, scalar_minus digit, again]
    rfl
  case h_8 =>
    obtain ⟨d, used, digit, split, ink, again⟩ := number?_takes (eq_ok_of_getD h)
    refine ⟨d, used, opens digit, split, ink, fun short cut => ?_⟩
    have again := again short cut
    rw [List.cons_append] at again
    rw [List.cons_append, scalar_digit digit, again]
    rfl
  case h_1 => cases h; exact ⟨'n', "ull".toList, by decide, rfl, List.all_eq_true.mp rfl, fun _ _ => rfl⟩
  case h_2 => cases h; exact ⟨'t', "rue".toList, by decide, rfl, List.all_eq_true.mp rfl, fun _ _ => rfl⟩
  case h_3 => cases h; exact ⟨'f', "alse".toList, by decide, rfl, List.all_eq_true.mp rfl, fun _ _ => rfl⟩
  case h_4 => cases h; exact ⟨'N', "aN".toList, by decide, rfl, List.all_eq_true.mp rfl, fun _ _ => rfl⟩
  case h_5 => cases h; exact ⟨'I', "nfinity".toList, by decide, rfl, List.all_eq_true.mp rfl, fun _ _ => rfl⟩
  case h_6 => cases h; exact ⟨'-', "Infinity".toList, by decide, rfl, List.all_eq_true.mp rfl, fun _ _ => rfl⟩

end PatchReview.Json
