/-!
# Decimal digits

Every script writes its ten digits at consecutive code points, so a table of
the zeros is enough. Runs of ASCII digits are what numbers in data are made of.
-/

namespace PatchReview.Text

def digitZeros : List Nat :=
  [1632, 1776, 1984, 2406, 2534, 2662, 2790, 2918, 3046, 3174, 3302, 3430, 3558, 3664, 3792,
   3872, 4160, 4240, 6112, 6160, 6470, 6608, 6784, 6800, 6992, 7088, 7232, 7248, 42528, 43216,
   43264, 43472, 43504, 43600, 44016, 65296, 66720, 68912, 69734, 69872, 69942, 70096, 70384,
   70736, 70864, 71248, 71360, 71472, 71904, 72016, 72784, 73040, 73120, 92768, 92864, 93008,
   120782, 120792, 120802, 120812, 120822, 123200, 123632, 125264, 130032]

def digit? (c : Char) : Option Nat :=
  if c.toNat < 128 then
    if c.isDigit then some (c.toNat - 48) else none
  else (digitZeros.find? fun first => first ≤ c.toNat && c.toNat ≤ first + 9).map (c.toNat - ·)

def digitRun (text : List Char) : List Char × List Char :=
  (text.takeWhile Char.isDigit, text.dropWhile Char.isDigit)

def anyDigitRun (text : List Char) : List Nat × List Char :=
  ((text.takeWhile fun c => (digit? c).isSome).filterMap digit?,
    text.dropWhile fun c => (digit? c).isSome)

def ofDigitValues (digits : List Nat) : Nat := digits.foldl (fun n d => n * 10 + d) 0

def digitRunValue (digits : List Char) : Nat := ofDigitValues (digits.map (·.toNat - 48))

def digitLimit : Nat := 4300

end PatchReview.Text
