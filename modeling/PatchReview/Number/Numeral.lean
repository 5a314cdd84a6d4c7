import PatchReview.Number.Binary64
import PatchReview.Text.Blank
import PatchReview.Text.Digit

/-!
# Numbers written as text

`setting?` reads a whole number the way settings and options give it: any
script's digits, single underscores between them. `whole?` and `real?` read
the numeric strings that a lenient schema takes in place of numbers. Their
digits are ASCII; a whole number may carry leading zeros and a fraction of
zeros, and its sign may stand behind the leading zeros.
-/

namespace PatchReview.Numeral

open Text (digitLimit digitRun digitRunValue ofDigitValues)

def unsigned : List Char → Bool × List Char
  | '-' :: rest => (true, rest)
  | '+' :: rest => (false, rest)
  | text => (false, text)

def signed (negative : Bool) (size : Nat) : Int := if negative then -(size : Int) else size

def groupedDigits? (digit? : Char → Option Nat) : List Char → Option (List Nat)
  | [] => none
  | [c] => (digit? c).map ([·])
  | c :: '_' :: rest => do
    let first ← digit? c
    let others ← groupedDigits? digit? rest
    return first :: others
  | c :: rest => do
    let first ← digit? c
    let others ← groupedDigits? digit? rest
    return first :: others

def setting? (text : String) : Option Int := do
  let (negative, digits) := unsigned (Text.trimBy Text.isSpace text.toList)
  let values ← groupedDigits? Text.digit? digits
  if digitLimit < values.length then none else some (signed negative (ofDigitValues values))

/-- Single underscores inside a text are dropped; others are refused. -/
def withoutUnderscores? (text : List Char) : Option (List Char) :=
  let rec spaced : List Char → Bool
    | '_' :: '_' :: _ => false
    | _ :: rest => spaced rest
    | [] => true
  if text.head? == some '_' || text.getLast? == some '_' || !spaced text then none
  else some (text.filter (· != '_'))

inductive WholeFault where
  | notWhole
  | tooLong
  deriving DecidableEq, Repr

/-- Plain notation: a minus sign or none, and digits without a leading zero.
Digits beyond the limit are too long whatever follows them. -/
def plain? (text : List Char) : Except WholeFault Int :=
  let (negative, digits) :=
    match text with
    | '-' :: rest => (true, rest)
    | text => (false, text)
  match digits with
  | ['0'] => .ok 0
  | '0' :: _ => .error .notWhole
  | digits =>
    match digitRun digits with
    | ([], _) => .error .notWhole
    | (found, rest) =>
      if digitLimit < found.length then .error .tooLong
      else if rest.isEmpty then .ok (signed negative (digitRunValue found))
      else .error .notWhole

def mayLead (c : Char) : Bool := c.isDigit || c == '-'

/-- Zeros and underscores at the start are dropped, down to the last character
before a point or the end. None if neither a digit nor a sign comes first. -/
def withoutLeadingZeros? : List Char → Option (List Char)
  | '0' :: rest =>
    match rest.dropWhile (fun c => c == '0' || c == '_') with
    | [] => some [(rest.getLast?).getD '0']
    | '.' :: fraction =>
      some (((rest.takeWhile (fun c => c == '0' || c == '_')).getLast?).getD '0' :: '.' :: fraction)
    | c :: others => if mayLead c then some (c :: others) else none
  | c :: rest => if mayLead c then some (c :: rest) else none
  | [] => none

def withoutZerosBehindSign? : List Char → Option (List Char)
  | '-' :: size => (withoutLeadingZeros? size).map ('-' :: ·)
  | text => withoutLeadingZeros? text

def withoutZeroFraction (text : List Char) : List Char :=
  match text.dropWhile (· != '.') with
  | '.' :: fraction =>
    if !fraction.isEmpty && fraction.all (· == '0') then text.takeWhile (· != '.') else text
  | _ => text

def plainer? (text : List Char) : Option (List Char) := do
  let text ←
    match Text.trimBy Text.isSpace text with
    | '+' :: '-' :: _ => none
    | '+' :: rest => some rest
    | text => some text
  withoutUnderscores? (withoutZeroFraction (← withoutZerosBehindSign? text))

/-- A whole number in plain notation or in one that can be made plain. Only a
text that is plain as it stands can be too long. -/
def whole? (text : String) : Except WholeFault Int :=
  match plain? text.toList with
  | .error .notWhole =>
    match (plainer? text.toList).map plain? with
    | some (.ok whole) => .ok whole
    | _ => .error .notWhole
  | found => found

/-- Decimal notation: digits on at least one side of an optional point, then an
optional exponent. -/
def decimal? (negative : Bool) (text : List Char) : Option Binary64 :=
  let (whole, rest) := digitRun text
  let (fraction, rest) :=
    match rest with
    | '.' :: rest => digitRun rest
    | rest => ([], rest)
  if whole.isEmpty && fraction.isEmpty then none
  else
    let number (exponent : Int) : Binary64 :=
      .ofDecimal negative (digitRunValue (whole ++ fraction)) (exponent - fraction.length)
    match rest with
    | [] => some (number 0)
    | c :: rest =>
      if c == 'e' || c == 'E' then
        let (below, digits) := unsigned rest
        match digitRun digits with
        | ([], _) => none
        | (found, []) => some (number (signed below (digitRunValue found)))
        | _ => none
      else none

def special? (negative : Bool) (text : List Char) : Option Binary64 :=
  match String.ofList (text.map Char.toLower) with
  | "inf" | "infinity" => some (.infinite negative)
  | "nan" => some .nan
  | _ => none

/-- White space around a number is dropped or underscores inside it are, but not
both. -/
def real? (text : String) : Option Binary64 :=
  let read (text : List Char) : Option Binary64 :=
    let (negative, size) := unsigned text
    (special? negative size).or (decimal? negative size)
  (read (Text.trimBy Text.isSpace text.toList)).or ((withoutUnderscores? text.toList).bind read)

end PatchReview.Numeral
