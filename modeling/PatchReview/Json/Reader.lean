import PatchReview.Json.Basic
import PatchReview.Text.Digit
import PatchReview.Text.Hex
import PatchReview.Text.Surrogate

/-!
# Reading JSON text

The grammar is the standard one with three more numbers: `NaN`, `Infinity`
and `-Infinity`. A decimal number beyond the finite range is infinite; a whole
number may have at most 4300 digits. Of equal names in one object the last
value counts.

A fault is placed by the number of characters left from it on, so the readers
need no position. Each call of `value`, `items` and `members` spends one unit
of its first argument; twice the length of the text is enough for every text.
The second argument of these three is how many more arrays and objects may be
opened inside each other. Running out of these is a fault of its own, whatever
follows in the text.
-/

namespace PatchReview.Json

open Text (digitLimit digitRun digitRunValue hexValue? isHighSurrogate isLowSurrogate joinSurrogates
  ofUnit)

inductive Expected where
  | value
  | end
  | propertyName
  | colon
  | comma
  | closingQuote
  | noControl
  | escape
  | unicodeEscape
  | noByteOrderMark
  deriving DecidableEq, Repr

def Expected.text : Expected → String
  | .value => "Expecting value"
  | .end => "Extra data"
  | .propertyName => "Expecting property name enclosed in double quotes"
  | .colon => "Expecting ':' delimiter"
  | .comma => "Expecting ',' delimiter"
  | .closingQuote => "Unterminated string starting at"
  | .noControl => "Invalid control character at"
  | .escape => "Invalid \\escape"
  | .unicodeEscape => "Invalid \\uXXXX escape"
  | .noByteOrderMark => "Unexpected UTF-8 BOM (decode using utf-8-sig)"

inductive Container where
  | array
  | object
  deriving DecidableEq, Repr

def Container.name : Container → String
  | .array => "array"
  | .object => "object"

inductive ReadFault where
  /-- What was expected, and how many characters are left where it was. -/
  | grammar (expected : Expected) (left : Nat)
  | tooManyDigits (digits : Nat)
  /-- An array or an object that stands in too many others. -/
  | tooNested (container : Container)
  deriving DecidableEq, Repr

def faultIndex (text : List Char) (left : Nat) : Nat := text.length - left

def ReadFault.message (text : List Char) : ReadFault → String
  | .grammar expected left =>
    let index := faultIndex text left
    let before := text.take index
    let line := before.count '\n' + 1
    let column := (before.reverse.takeWhile (· != '\n')).length + 1
    s!"{expected.text}: line {line} column {column} (char {index})"
  | .tooManyDigits digits =>
    s!"Exceeds the limit (4300 digits) for integer string conversion: value has {digits} digits; " ++
      "use sys.set_int_max_str_digits() to increase the limit"
  | .tooNested container =>
    s!"maximum recursion depth exceeded while decoding a JSON {container.name} from a unicode string"

def isJsonSpace (c : Char) : Bool := c == ' ' || c == '\t' || c == '\n' || c == '\r'

def skipSpace (text : List Char) : List Char := text.dropWhile isJsonSpace

/-! ## Strings -/

/-- A character of a string, or a 16-bit unit from an escape. -/
inductive StringPart where
  | char (c : Char)
  | unit (code : Nat)
  deriving DecidableEq, Repr

def hexUnit? (a b c d : Char) : Option Nat := do
  let a ← hexValue? a
  let b ← hexValue? b
  let c ← hexValue? c
  let d ← hexValue? d
  return ((a * 16 + b) * 16 + c) * 16 + d

def simpleEscape? : Char → Option Char
  | '"' => some '"'
  | '\\' => some '\\'
  | '/' => some '/'
  | 'b' => some '\x08'
  | 'f' => some '\x0c'
  | 'n' => some '\n'
  | 'r' => some '\r'
  | 't' => some '\t'
  | _ => none

/-- The parts of a string up to its closing quote. `opened` characters were
left at the opening one. -/
def stringParts (opened : Nat) : List Char → Except ReadFault (List StringPart × List Char)
  | [] => .error (.grammar .closingQuote opened)
  | '"' :: rest => .ok ([], rest)
  | ['\\'] => .error (.grammar .closingQuote opened)
  | '\\' :: 'u' :: rest =>
    match rest with
    | a :: b :: c :: d :: e :: rest =>
      match hexUnit? a b c d with
      | some unit => do
        let (parts, left) ← stringParts opened (e :: rest)
        return (.unit unit :: parts, left)
      | none => .error (.grammar .unicodeEscape (rest.length + 6))
    | rest => .error (.grammar .unicodeEscape (rest.length + 1))
  | '\\' :: c :: rest =>
    match simpleEscape? c with
    | some c => do
      let (parts, left) ← stringParts opened rest
      return (.char c :: parts, left)
    | none => .error (.grammar .escape (rest.length + 2))
  | c :: rest =>
    if c.toNat < 32 then .error (.grammar .noControl (rest.length + 1))
    else do
      let (parts, left) ← stringParts opened rest
      return (.char c :: parts, left)

def joinParts : List StringPart → List Char
  | .unit high :: .unit low :: rest =>
    if isHighSurrogate high && isLowSurrogate low then joinSurrogates high low :: joinParts rest
    else ofUnit high :: joinParts (.unit low :: rest)
  | .char c :: rest => c :: joinParts rest
  | .unit unit :: rest => ofUnit unit :: joinParts rest
  | [] => []

def string (text : List Char) : Except ReadFault (List StringPart × List Char) :=
  stringParts (text.length + 1) text

def textOf (parts : List StringPart) : String := String.ofList (joinParts parts)

/-! ## Numbers -/

def fractionPart : List Char → List Char × List Char
  | '.' :: rest =>
    match digitRun rest with
    | ([], _) => ([], '.' :: rest)
    | found => found
  | text => ([], text)

def exponentDigits? (text : List Char) : Option (Int × List Char) :=
  let (negative, digits) :=
    match text with
    | '-' :: rest => (true, rest)
    | '+' :: rest => (false, rest)
    | text => (false, text)
  match digitRun digits with
  | ([], _) => none
  | (found, left) =>
    let size : Int := digitRunValue found
    some (if negative then -size else size, left)

def exponentPart? : List Char → Option (Int × List Char)
  | 'e' :: rest => exponentDigits? rest
  | 'E' :: rest => exponentDigits? rest
  | _ => none

/-- Whole digits with their sign, and what follows: a fraction or an exponent
makes the number a double-precision one. -/
def numberFrom (negative : Bool) (whole text : List Char) : Except ReadFault (Json × List Char) :=
  let (fraction, afterFraction) := fractionPart text
  match exponentPart? afterFraction with
  | some (exponent, left) =>
    .ok (.num (.ofDecimal negative (digitRunValue (whole ++ fraction)) (exponent - fraction.length)), left)
  | none =>
    if fraction.isEmpty then
      if digitLimit < whole.length then .error (.tooManyDigits whole.length)
      else
        let size : Int := digitRunValue whole
        .ok (.int (if negative then -size else size), afterFraction)
    else
      .ok (.num (.ofDecimal negative (digitRunValue (whole ++ fraction)) (-fraction.length)), afterFraction)

/-- An unsigned number, or nothing: either a lone zero or digits without a
leading one begin it. -/
def number? (negative : Bool) : List Char → Option (Except ReadFault (Json × List Char))
  | '0' :: rest => some (numberFrom negative ['0'] rest)
  | text =>
    match digitRun text with
    | ([], _) => none
    | (whole, rest) => some (numberFrom negative whole rest)

/-! ## Values -/

def scalar (text : List Char) : Except ReadFault (Json × List Char) :=
  let unexpected := .error (.grammar .value text.length)
  match text with
  | 'n' :: 'u' :: 'l' :: 'l' :: rest => .ok (.null, rest)
  | 't' :: 'r' :: 'u' :: 'e' :: rest => .ok (.bool true, rest)
  | 'f' :: 'a' :: 'l' :: 's' :: 'e' :: rest => .ok (.bool false, rest)
  | 'N' :: 'a' :: 'N' :: rest => .ok (.num .nan, rest)
  | 'I' :: 'n' :: 'f' :: 'i' :: 'n' :: 'i' :: 't' :: 'y' :: rest => .ok (.num (.infinite false), rest)
  | '-' :: 'I' :: 'n' :: 'f' :: 'i' :: 'n' :: 'i' :: 't' :: 'y' :: rest =>
    .ok (.num (.infinite true), rest)
  | '-' :: rest => (number? true rest).getD unexpected
  | text => (number? false text).getD unexpected

mutual
def value : Nat → Nat → List Char → Except ReadFault (Json × List Char)
  | 0, _, text => .error (.grammar .value text.length)
  | fuel + 1, room, text =>
    match text, room with
    | '"' :: rest, _ => do
      let (found, left) ← string rest
      return (.str (textOf found), left)
    | '[' :: _, 0 => .error (.tooNested .array)
    | '{' :: _, 0 => .error (.tooNested .object)
    | '[' :: rest, room + 1 =>
      match skipSpace rest with
      | ']' :: left => .ok (.arr [], left)
      | rest => do
        let (found, left) ← items fuel room rest
        return (.arr found, left)
    | '{' :: rest, room + 1 =>
      match skipSpace rest with
      | '}' :: left => .ok (.obj [], left)
      | rest => do
        let (found, left) ← members fuel room [] rest
        return (.obj found, left)
    | text, _ => scalar text
def items : Nat → Nat → List Char → Except ReadFault (List Json × List Char)
  | 0, _, text => .error (.grammar .value text.length)
  | fuel + 1, room, text => do
    let (first, rest) ← value fuel room text
    match skipSpace rest with
    | ']' :: left => return ([first], left)
    | ',' :: rest =>
      let (found, left) ← items fuel room (skipSpace rest)
      return (first :: found, left)
    | rest => .error (.grammar .comma rest.length)
def members : Nat → Nat → List (String × Json) → List Char →
    Except ReadFault (List (String × Json) × List Char)
  | 0, _, _, text => .error (.grammar .value text.length)
  | fuel + 1, room, before, text =>
    match text with
    | '"' :: rest => do
      let (name, rest) ← string rest
      match skipSpace rest with
      | ':' :: rest =>
        let (found, rest) ← value fuel room (skipSpace rest)
        let fields := putField (textOf name) found before
        match skipSpace rest with
        | '}' :: left => return (fields, left)
        | ',' :: rest => members fuel room fields (skipSpace rest)
        | rest => .error (.grammar .comma rest.length)
      | rest => .error (.grammar .colon rest.length)
    | text => .error (.grammar .propertyName text.length)
end

/-- Reads a whole text as one value with white space around it, in which up to
`room` arrays and objects may stand inside each other. -/
def readWithin (room : Nat) (text : List Char) : Except ReadFault Json :=
  match text with
  | '\ufeff' :: _ => .error (.grammar .noByteOrderMark text.length)
  | text => do
    let (found, rest) ← value (2 * text.length + 2) room (skipSpace text)
    match skipSpace rest with
    | [] => return found
    | rest => .error (.grammar .end rest.length)

def depthLimit : Nat := 989

def read (text : List Char) : Except ReadFault Json := readWithin depthLimit text

end PatchReview.Json
