/-!
# Punycode

A text of any characters is written in letters, digits and hyphens. Its ASCII
characters come first and a hyphen after them; then, character by character in
the order of their codes, how far each is from the one before it. Distances
are numbers to base 36 whose digits below a threshold are the last ones, and
the thresholds follow the distances so far.
-/

namespace PatchReview.Punycode

def threshold (digit bias : Nat) : Nat := max 1 (min 26 (36 * (digit + 1) - bias))

/-- Scales a distance down to 455 and counts the steps, each of which is worth
36. -/
def scale (distance : Nat) : Nat × Nat :=
  if 455 < distance then
    let (steps, left) := scale (distance / 35)
    (steps + 36, left)
  else (0, distance)
termination_by distance
decreasing_by omega

def adapt (distance count : Nat) (isFirst : Bool) : Nat :=
  let size := if isFirst then distance / 700 else distance / 2
  let (steps, left) := scale (size + size / count)
  steps + 36 * left / (left + 38)

def digitChar (digit : Nat) : Char :=
  if digit < 26 then Char.ofNat (97 + digit) else Char.ofNat (22 + digit)

def digitValue? (c : Char) : Option Nat :=
  if c.isAlpha then some (c.toLower.toNat - 97)
  else if c.isDigit then some (c.toNat - 22)
  else none

/-! ## Writing -/

def writeNumber (bias place number : Nat) : List Char :=
  let limit := threshold place bias
  if number < limit then [digitChar number]
  else
    digitChar (limit + (number - limit) % (36 - limit)) ::
      writeNumber bias (place + 1) ((number - limit) / (36 - limit))
termination_by number
decreasing_by
  have positive : 1 ≤ threshold place bias := Nat.le_max_left ..
  have := Nat.div_le_self (number - threshold place bias) (36 - threshold place bias)
  omega

structure Writer where
  written : List Char
  distance : Nat
  bias : Nat
  count : Nat

/-- Passes a character on the way through the text for those with a code. -/
def Writer.pass (basic code : Nat) (writer : Writer) (c : Char) : Writer :=
  if c.toNat < code then { writer with distance := writer.distance + 1 }
  else if c.toNat = code then
    { written := writer.written ++ writeNumber writer.bias 0 writer.distance
      distance := 0
      bias := adapt writer.distance (writer.count + 1) (writer.count == basic)
      count := writer.count + 1 }
  else writer

/-- Writes the characters with the codes given, which are ascending. -/
def writeCodes (text : List Char) (basic next : Nat) (writer : Writer) : List Nat → Writer
  | [] => writer
  | code :: codes =>
    let start := { writer with distance := writer.distance + (code - next) * (writer.count + 1) }
    let after := text.foldl (Writer.pass basic code) start
    writeCodes text basic (code + 1) { after with distance := after.distance + 1 } codes

def encode (text : List Char) : List Char :=
  let basic := text.filter (·.toNat < 128)
  let codes := ((text.filter (128 ≤ ·.toNat)).map (·.toNat)).mergeSort.eraseDups
  let writer := writeCodes text basic.length 128 ⟨[], 0, 72, basic.length⟩ codes
  (if basic.isEmpty then [] else basic ++ ['-']) ++ writer.written

/-! ## Reading -/

/-- A number from its digit of the given place on, which is worth `weight`,
and what follows it. -/
def readNumber? (bias place weight : Nat) : List Char → Option (Nat × List Char)
  | [] => none
  | c :: rest => do
    let digit ← digitValue? c
    let limit := threshold place bias
    if digit < limit then return (digit * weight, rest)
    let (others, left) ← readNumber? bias (place + 1) (weight * (36 - limit)) rest
    return (digit * weight + others, left)

/-- Puts the characters that a text tells of into those before them. The code
and the place of the last one are given; each character takes at least one of
the text. -/
def readCodes? (bias code place : Nat) (isFirst : Bool) (found : List Char) :
    Nat → List Char → Option (List Char)
  | _, [] => some found
  | 0, _ => none
  | fuel + 1, text => do
    let (distance, left) ← readNumber? bias 0 1 text
    let position := place + distance
    let count := found.length + 1
    let code := code + position / count
    if !code.isValidChar then none
    else
      let place := position % count
      let found := found.take place ++ Char.ofNat code :: found.drop place
      readCodes? (adapt distance count isFirst) code (place + 1) false found fuel left

def decode? (written : List Char) : Option (List Char) :=
  let backward := written.reverse
  match backward.dropWhile (· != '-') with
  | [] => readCodes? 72 128 0 true [] written.length written
  | _ :: basic =>
    let codes := (backward.takeWhile (· != '-')).reverse
    readCodes? 72 128 0 true basic.reverse codes.length codes

end PatchReview.Punycode
