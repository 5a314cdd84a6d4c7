/-!
# Double-precision numbers

A finite number is a signed multiple of a power of two, so every operation is
exact arithmetic followed by one rounding. `ofRatio` is that rounding: to the
nearest number, and to the even mantissa of two equally near ones. Mantissas
are below 2^53 and exponents at least -1074, with the full 53 bits wherever
the exponent allows them, so equal numbers have equal forms; zero keeps its
sign. Multiplication and subtraction are the only arithmetic that review
timing and retry delays need.
-/

namespace PatchReview

inductive Binary64 where
  /-- The number `mantissa * 2 ^ exponent`, negated if `negative`. -/
  | finite (negative : Bool) (mantissa : Nat) (exponent : Int)
  | infinite (negative : Bool)
  | nan
  deriving DecidableEq, Repr, Inhabited

namespace Binary64

def leastExponent : Int := -1074
def greatestExponent : Int := 971

/-- The nearest whole number to `num / den`, the even one of two. -/
def nearest (num den : Nat) : Nat :=
  let quotient := num / den
  let rest := num % den
  if 2 * rest < den then quotient
  else if den < 2 * rest then quotient + 1
  else quotient + quotient % 2

def overPower (num den : Nat) (exponent : Int) : Nat × Nat :=
  if 0 ≤ exponent then (num, den * Nat.pow 2 exponent.toNat)
  else (num * Nat.pow 2 (-exponent).toNat, den)

/-- The exponent under which a positive fraction has a mantissa of 53 bits, if
that is in range. -/
def exponentFor (num den : Nat) : Int :=
  let guess : Int := (num.log2 : Int) - den.log2 - 52
  let (n, d) := overPower num den guess
  max leastExponent (if n / d < Nat.pow 2 52 then guess - 1 else guess)

def zero (negative : Bool) : Binary64 := .finite negative 0 leastExponent

def ofRatio (negative : Bool) (num den : Nat) : Binary64 :=
  if num = 0 then zero negative
  else
    let exponent := exponentFor num den
    let (n, d) := overPower num den exponent
    let mantissa := nearest n d
    let (mantissa, exponent) :=
      if mantissa = Nat.pow 2 53 then (Nat.pow 2 52, exponent + 1) else (mantissa, exponent)
    if greatestExponent < exponent then .infinite negative
    else .finite negative mantissa exponent

def ofNat (n : Nat) : Binary64 := ofRatio false n 1

def ofInt? (n : Int) : Option Binary64 :=
  match ofRatio (n < 0) n.natAbs 1 with
  | .infinite _ => none
  | x => some x

/-- The number nearest to `digits * 10 ^ exponent`. Exponents that put the
value far outside the range are answered without computing the power. -/
def ofDecimal (negative : Bool) (digits : Nat) (exponent : Int) : Binary64 :=
  if digits = 0 then zero negative
  else if 0 ≤ exponent then
    if 400 < exponent then .infinite negative
    else ofRatio negative (digits * Nat.pow 10 exponent.toNat) 1
  else if digits.log2 + 1200 < 3 * (-exponent).toNat then zero negative
  else ofRatio negative digits (Nat.pow 10 (-exponent).toNat)

def fraction (mantissa : Nat) (exponent : Int) : Nat × Nat :=
  if 0 ≤ exponent then (mantissa * Nat.pow 2 exponent.toNat, 1)
  else (mantissa, Nat.pow 2 (-exponent).toNat)

def isFinite : Binary64 → Bool
  | .finite .. => true
  | _ => false

def isNaN : Binary64 → Bool
  | .nan => true
  | _ => false

def isZero : Binary64 → Bool
  | .finite _ 0 _ => true
  | _ => false

/-- The number in units of `2 ^ scale`, for a scale not above its exponent. -/
def units (negative : Bool) (mantissa : Nat) (exponent scale : Int) : Int :=
  let size : Int := (mantissa * Nat.pow 2 (exponent - scale).toNat : Nat)
  if negative then -size else size

/-- Strict order; nothing is below or above `nan`. -/
def lt : Binary64 → Binary64 → Bool
  | .finite s m e, .finite s' m' e' =>
    units s m e (min e e') < units s' m' e' (min e e')
  | .infinite s, .infinite s' => s && !s'
  | .infinite s, .finite .. => s
  | .finite .., .infinite s => !s
  | _, _ => false

/-- Order; `nan` is not even in it with itself. -/
def le (x y : Binary64) : Bool := !x.isNaN && !y.isNaN && !y.lt x

def sub : Binary64 → Binary64 → Binary64
  | .finite s m e, .finite s' m' e' =>
    let scale := min e e'
    let difference := units s m e scale - units s' m' e' scale
    if difference = 0 then zero (m = 0 && s && !s')
    else
      let (num, den) := fraction difference.natAbs scale
      ofRatio (difference < 0) num den
  | .infinite s, .infinite s' => if s = s' then .nan else .infinite s
  | .infinite s, .finite .. => .infinite s
  | .finite .., .infinite s => .infinite !s
  | _, _ => .nan

def mul : Binary64 → Binary64 → Binary64
  | .finite s m e, .finite s' m' e' =>
    let (num, den) := fraction (m * m') (e + e')
    ofRatio (s != s') num den
  | .infinite s, .infinite s' => .infinite (s != s')
  | .infinite s, .finite s' m _ => if m = 0 then .nan else .infinite (s != s')
  | .finite s m _, .infinite s' => if m = 0 then .nan else .infinite (s != s')
  | _, _ => .nan

def truncate? : Binary64 → Option Int
  | .finite negative mantissa exponent =>
    let (num, den) := fraction mantissa exponent
    let whole : Int := (num / den : Nat)
    some (if negative then -whole else whole)
  | _ => none

def isWhole : Binary64 → Bool
  | .finite _ mantissa exponent =>
    let (num, den) := fraction mantissa exponent
    num % den == 0
  | _ => false

/-- Rounded to hundredths, the exact value deciding and a tie going to the even
hundredth. -/
def roundHundredths : Binary64 → Binary64
  | .finite negative mantissa exponent =>
    let (num, den) := fraction mantissa exponent
    ofRatio negative (nearest (num * 100) den) 100
  | x => x

end Binary64

end PatchReview
