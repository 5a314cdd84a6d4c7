import PatchReview.Number.Binary64

/-!
# Decimal text of double-precision numbers

`shortest` finds the fewest significant digits that read back as the same
number and, among texts of that many digits, the nearest one, an even last
digit deciding between two. `text` lays them out; `fixed` writes two places
instead.
-/

namespace PatchReview.Binary64

structure Digits where
  digits : Nat
  exponent : Int
  deriving DecidableEq, Repr

/-- The reals that round to a positive number, as fractions over `unit`, and
whether the ends belong to them. -/
structure Interval where
  low : Nat
  value : Nat
  high : Nat
  unit : Nat
  closed : Bool
  deriving Repr

/-- Half the distance to either neighbour; the lower one is closer at a power
of two. -/
def interval (mantissa : Nat) (exponent : Int) : Interval :=
  let below := if mantissa = Nat.pow 2 52 && leastExponent < exponent then 1 else 2
  let scaled (n : Nat) : Nat := if 2 ≤ exponent then n * Nat.pow 2 (exponent - 2).toNat else n
  { low := scaled (4 * mantissa - below)
    value := scaled (4 * mantissa)
    high := scaled (4 * mantissa + 2)
    unit := if 2 ≤ exponent then 1 else Nat.pow 2 (2 - exponent).toNat
    closed := mantissa % 2 = 0 }

def Interval.has (i : Interval) (num den : Nat) : Bool :=
  if i.closed then i.low * den ≤ num * i.unit && num * i.unit ≤ i.high * den
  else i.low * den < num * i.unit && num * i.unit < i.high * den

def Digits.fraction (d : Digits) : Nat × Nat :=
  if 0 ≤ d.exponent then (d.digits * Nat.pow 10 d.exponent.toNat, 1)
  else (d.digits, Nat.pow 10 (-d.exponent).toNat)

def Interval.holds (i : Interval) (d : Digits) : Bool :=
  let (num, den) := d.fraction
  i.has num den

def digitCount (n : Nat) : Nat := (Nat.toDigits 10 n).length

def leadingExponent (num den : Nat) : Int :=
  (digitCount (num * Nat.pow 10 400 / den) : Int) - 401

/-- The multiple of `10 ^ exponent` in the interval that is nearest to its
value, the even one of two. Only the two multiples around the value can be. -/
def Interval.onGrid? (i : Interval) (exponent : Int) : Option Digits :=
  let (num, den) :=
    if 0 ≤ exponent then (i.value, i.unit * Nat.pow 10 exponent.toNat)
    else (i.value * Nat.pow 10 (-exponent).toNat, i.unit)
  let below : Digits := ⟨num / den, exponent⟩
  let above : Digits := ⟨num / den + 1, exponent⟩
  match i.holds below, i.holds above with
  | true, true => some ⟨nearest num den, exponent⟩
  | true, false => some below
  | false, true => some above
  | false, false => none

def Interval.shortestFrom (i : Interval) (leading : Int) (digits : Nat) : Nat → Digits
  | 0 => ⟨0, 0⟩
  | more + 1 =>
    match i.onGrid? (leading + 1 - digits) with
    | some found => found
    | none => i.shortestFrom leading (digits + 1) more

/-- Seventeen digits always suffice. -/
def shortest (mantissa : Nat) (exponent : Int) : Digits :=
  let i := interval mantissa exponent
  i.shortestFrom (leadingExponent i.value i.unit) 1 17

def significant (digits : Nat) : List Char :=
  ((Nat.toDigits 10 digits).reverse.dropWhile (· == '0')).reverse

def signText (negative : Bool) : String := if negative then "-" else ""

/-- Positional from 0.0001 up to below 10^16, always with a fraction; else in
scientific notation with an exponent of at least two digits. -/
def layout (digits : List Char) (leading : Int) : String :=
  if -4 ≤ leading && leading < 16 then
    if leading < 0 then
      "0." ++ String.ofList (List.replicate (-leading - 1).toNat '0' ++ digits)
    else
      let places := leading.toNat + 1
      let whole := digits.take places ++ List.replicate (places - digits.length) '0'
      let rest := digits.drop places
      String.ofList whole ++ "." ++ (if rest.isEmpty then "0" else String.ofList rest)
  else
    let power := Nat.toDigits 10 leading.natAbs
    let rest := digits.drop 1
    String.ofList (digits.take 1) ++ (if rest.isEmpty then "" else "." ++ String.ofList rest) ++
      "e" ++ (if leading < 0 then "-" else "+") ++
      String.ofList (List.replicate (2 - power.length) '0' ++ power)

def text : Binary64 → String
  | .finite negative 0 _ => signText negative ++ "0.0"
  | .finite negative mantissa exponent =>
    let found := shortest mantissa exponent
    signText negative ++
      layout (significant found.digits) (found.exponent + digitCount found.digits - 1)
  | .infinite negative => signText negative ++ "inf"
  | .nan => "nan"

/-- Two places, the exact value deciding and a tie going to the even hundredth. -/
def fixed : Binary64 → String
  | .finite negative mantissa exponent =>
    let (num, den) := fraction mantissa exponent
    let hundredths := nearest (num * 100) den
    let cents := Nat.toDigits 10 (hundredths % 100)
    s!"{signText negative}{hundredths / 100}." ++
      String.ofList (List.replicate (2 - cents.length) '0' ++ cents)
  | x => x.text

end PatchReview.Binary64
