import PatchReview.Number.Decimal

/-!
# Written whole numbers

A whole number may be written with a fraction or a power of ten. `Figures`
keeps the digits before the point apart, since only they are grouped.
-/

namespace PatchReview

structure Figures where
  whole : List Char
  rest : List Char
  deriving DecidableEq, Repr

namespace Figures

def ofNat (base n : Nat) : Figures := ⟨Nat.toDigits base n, []⟩

/-- The part after the digits before the point. The point stands alone if it
is kept without a fraction. -/
def fraction (keepPoint : Bool) (digits : List Char) : List Char :=
  if digits.isEmpty && !keepPoint then [] else '.' :: digits

def fixed (keepPoint : Bool) (places n : Nat) : Figures :=
  ⟨Nat.toDigits 10 n, fraction keepPoint (List.replicate places '0')⟩

def percent (keepPoint : Bool) (places n : Nat) : Figures :=
  let figures := fixed keepPoint places (n * 100)
  { figures with rest := figures.rest ++ ['%'] }

/-- The nearest number with `places + 1` significant digits, an even one of
two: these digits and the power of ten of the first. -/
def significand (places n : Nat) : List Char × Nat :=
  if n = 0 then (List.replicate (places + 1) '0', 0)
  else
    let power := Binary64.digitCount n - 1
    let rounded := Binary64.nearest (n * Nat.pow 10 places) (Nat.pow 10 power)
    let digits := Nat.toDigits 10 rounded
    (digits.take (places + 1), if places + 1 < digits.length then power + 1 else power)

def withPower (keepPoint : Bool) (digits : List Char) (power : Nat) : Figures :=
  let exponent := Nat.toDigits 10 power
  ⟨digits.take 1, fraction keepPoint (digits.drop 1) ++
    ['e', '+'] ++ List.replicate (2 - exponent.length) '0' ++ exponent⟩

def scientific (keepPoint : Bool) (places n : Nat) : Figures :=
  let (digits, power) := significand places n
  withPower keepPoint digits power

/-- As many significant digits as asked for, positional where they suffice for
all digits before the point. Zeros at the end of a fraction are left out
unless the point is kept. -/
def general (keepPoint : Bool) (precision n : Nat) : Figures :=
  let places := max precision 1 - 1
  let (digits, power) := significand places n
  if power ≤ places then fixed keepPoint (if keepPoint then places - power else 0) n
  else
    let shown := if keepPoint then digits else (digits.reverse.dropWhile (· == '0')).reverse
    withPower keepPoint shown power

def upper (figures : Figures) : Figures :=
  ⟨figures.whole.map Char.toUpper, figures.rest.map Char.toUpper⟩

/-- A mark after every digit that has a multiple of `size` digits after it. -/
def separate (mark : Char) (size : Nat) (digits : List Char) : List Char :=
  let count := digits.length
  digits.zipIdx.flatMap fun (c, i) =>
    let after := count - 1 - i
    if 0 < after && after % size = 0 then [c, mark] else [c]

def digitsToFill (size width : Nat) : Nat := width - (width - 1) / (size + 1)

/-- Digits in groups, with zeros in front up to a width. A mark is never
first, so the width may be exceeded by one. -/
def grouped (mark : Char) (size width : Nat) (digits : List Char) : List Char :=
  separate mark size (List.replicate (digitsToFill size width - digits.length) '0' ++ digits)

end Figures

end PatchReview
