import PatchReview.Number.Figures
import PatchReview.Text.Digit

/-!
# Layouts of values in messages

A layout says on which side a value is padded and to what width, and how a
number is written. Its text is `[[fill]side][sign][z][#][0][width][separator]
[.precision][code]`, every part optional. Which parts a value takes depends on
its kind: a text has a width and a greatest length, a number all the rest.
-/

namespace PatchReview

inductive ValueKind where
  | number
  | text
  deriving DecidableEq, Repr

def ValueKind.label : ValueKind → String
  | number => "int"
  | text => "str"

inductive Side where
  | left
  | right
  | center
  /-- The padding goes between the sign of a number and its digits. -/
  | apart
  deriving DecidableEq, Repr

inductive SignStyle where
  | none
  | plus
  | space
  deriving DecidableEq, Repr

inductive Separator where
  | comma
  | underscore
  deriving DecidableEq, Repr

def Separator.mark : Separator → Char
  | comma => ','
  | underscore => '_'

structure Layout where
  fill : Char
  side : Side
  sign : Option SignStyle
  positiveZero : Bool
  alternate : Bool
  width : Option Nat
  separator : Option Separator
  precision : Option Nat
  code : Char
  deriving DecidableEq, Repr

inductive LayoutFault where
  | tooManyDigits
  | noPrecision
  | bothSeparators
  | separatorRefused (separator : Separator) (code : Char)
  | malformed (text : String) (kind : ValueKind)
  | unknownCode (code : Char) (kind : ValueKind)
  | signOfText
  | spaceOfText
  | positiveZero (kind : ValueKind)
  | alternateText
  | apartText
  | precisionOfWhole
  | signOfCharacter
  | alternateCharacter
  | noCharacter
  | precisionTooBig
  /-- The width is beyond what can be held. -/
  | noRoom
  deriving DecidableEq, Repr

namespace LayoutFault

def showCode (code : Char) : String :=
  if 32 < code.toNat && code.toNat < 128 then String.singleton code
  else "\\x" ++ String.ofList (Nat.toDigits 16 code.toNat)

def message : LayoutFault → String
  | tooManyDigits => "Too many decimal digits in format string"
  | noPrecision => "Format specifier missing precision"
  | bothSeparators => "Cannot specify both ',' and '_'."
  | separatorRefused separator code =>
    s!"Cannot specify '{separator.mark}' with '{showCode code}'."
  | malformed text kind => s!"Invalid format specifier '{text}' for object of type '{kind.label}'"
  | unknownCode code kind =>
    s!"Unknown format code '{showCode code}' for object of type '{kind.label}'"
  | signOfText => "Sign not allowed in string format specifier"
  | spaceOfText => "Space not allowed in string format specifier"
  | positiveZero .text => "Negative zero coercion (z) not allowed in string format specifier"
  | positiveZero .number => "Negative zero coercion (z) not allowed in integer format specifier"
  | alternateText => "Alternate form (#) not allowed in string format specifier"
  | apartText => "'=' alignment not allowed in string format specifier"
  | precisionOfWhole => "Precision not allowed in integer format specifier"
  | signOfCharacter => "Sign not allowed with integer format specifier 'c'"
  | alternateCharacter => "Alternate form (#) not allowed with integer format specifier 'c'"
  | noCharacter => "%c arg not in range(0x110000)"
  | precisionTooBig => "precision too big"
  | noRoom => ""

def isValue : LayoutFault → Bool
  | noCharacter | noRoom => false
  | _ => true

end LayoutFault

namespace Layout

/-! ## Reading -/

def side? : Char → Option Side
  | '<' => some .left
  | '>' => some .right
  | '^' => some .center
  | '=' => some .apart
  | _ => none

def sign? : Char → Option SignStyle
  | '-' => some .none
  | '+' => some .plus
  | ' ' => some .space
  | _ => none

def readPart (part? : Char → Option α) : List Char → Option α × List Char
  | [] => (none, [])
  | c :: rest =>
    match part? c with
    | some part => (some part, rest)
    | none => (none, c :: rest)

def readFlag (flag : Char) (text : List Char) : Bool × List Char :=
  let (found, rest) := readPart (fun c => if c = flag then some () else none) text
  (found.isSome, rest)

/-- Any character before a side is the one to fill with. -/
def readFill : List Char → Option Char × List Char
  | fill :: side :: rest =>
    if (side? side).isSome then (some fill, side :: rest) else (none, fill :: side :: rest)
  | text => (none, text)

def greatestSize : Nat := 9223372036854775807

def readSize (text : List Char) : Except LayoutFault (Option Nat × List Char) :=
  let (digits, rest) := Text.anyDigitRun text
  let size := Text.ofDigitValues digits
  if greatestSize < size then .error .tooManyDigits
  else .ok (if digits.isEmpty then none else some size, rest)

def readSeparator : List Char → Except LayoutFault (Option Separator × List Char)
  | ',' :: '_' :: _ => .error .bothSeparators
  | '_' :: ',' :: _ => .error .bothSeparators
  | ',' :: rest => .ok (some .comma, rest)
  | '_' :: rest => .ok (some .underscore, rest)
  | text => .ok (none, text)

def readPrecision : List Char → Except LayoutFault (Option Nat × List Char)
  | '.' :: rest => do
    let (precision, rest) ← readSize rest
    if precision.isNone then .error .noPrecision else .ok (precision, rest)
  | text => .ok (none, text)

def readCode (whole : List Char) (kind : ValueKind) : List Char → Except LayoutFault (Option Char)
  | [] => .ok none
  | [code] => .ok (some code)
  | _ => .error (.malformed (String.ofList whole) kind)

/-- Numbers to a base other than ten take underscores only. -/
def takesSeparator (separator : Separator) (code : Char) : Bool :=
  "defgEG%F".toList.contains code || (separator = .underscore && "boxX".toList.contains code)

/-- Texts stand on the left and numbers on the right, or after zeros that
follow their sign. -/
def usualSide (kind : ValueKind) (zeros : Bool) : Side :=
  match kind with
  | .number => if zeros then .apart else .right
  | .text => .left

def read (kind : ValueKind) (text : List Char) : Except LayoutFault Layout := do
  let (fill, rest) := readFill text
  let (side, rest) := readPart side? rest
  let (sign, rest) := readPart sign? rest
  let (positiveZero, rest) := readFlag 'z' rest
  let (alternate, rest) := readFlag '#' rest
  let (zeros, rest) := if fill.isSome then (false, rest) else readFlag '0' rest
  let (width, rest) ← readSize rest
  let (separator, rest) ← readSeparator rest
  let (precision, rest) ← readPrecision rest
  let code := (← readCode text kind rest).getD (if kind = .number then 'd' else 's')
  if separator.any fun s => !takesSeparator s code then
    .error (.separatorRefused (separator.getD .comma) code)
  else .ok {
    fill := if zeros then '0' else fill.getD ' '
    side := side.getD (usualSide kind zeros)
    sign, positiveZero, alternate, width, separator, precision, code }

/-! ## Laying out -/

def widthLimit : Nat := 1000000000

/-- A value of two parts in its width. Padding apart goes between them. -/
def pad (layout : Layout) (first second : List Char) : Except LayoutFault (List Char) :=
  let width := layout.width.getD 0
  if widthLimit ≤ width then .error .noRoom
  else
    let missing := width - (first.length + second.length)
    let padding (n : Nat) := List.replicate n layout.fill
    .ok <| match layout.side with
      | .left => first ++ second ++ padding missing
      | .right => padding missing ++ first ++ second
      | .center => padding (missing / 2) ++ first ++ second ++ padding (missing - missing / 2)
      | .apart => first ++ padding missing ++ second

def layText (layout : Layout) (text : List Char) : Except LayoutFault (List Char) :=
  if layout.code ≠ 's' then .error (.unknownCode layout.code .text)
  else if layout.sign = some .space then .error .spaceOfText
  else if layout.sign.isSome then .error .signOfText
  else if layout.positiveZero then .error (.positiveZero .text)
  else if layout.alternate then .error .alternateText
  else if layout.side = .apart then .error .apartText
  else layout.pad [] ((layout.precision.map text.take).getD text)

def signText : Option SignStyle → List Char
  | some .plus => ['+']
  | some .space => [' ']
  | _ => []

def layFigures (layout : Layout) (size : Nat) (base : List Char) (figures : Figures) :
    Except LayoutFault (List Char) :=
  let first := signText layout.sign ++ base
  let width := layout.width.getD 0
  if widthLimit ≤ width then .error .noRoom
  else
    let filled := if layout.fill = '0' && layout.side = .apart then width else 0
    let whole := match layout.separator with
      | none => figures.whole
      | some separator =>
        Figures.grouped separator.mark size (filled - (first.length + figures.rest.length))
          figures.whole
    layout.pad first (whole ++ figures.rest)

def layCharacter (layout : Layout) (n : Nat) : Except LayoutFault (List Char) :=
  if layout.sign.isSome then .error .signOfCharacter
  else if layout.alternate then .error .alternateCharacter
  else if n.isValidChar then layout.pad [] [Char.ofNat n]
  else .error .noCharacter

/-- Without fraction, to any of four bases or as a character. -/
def layWhole (layout : Layout) (n : Nat) : Except LayoutFault (List Char) :=
  let toBase (base : Nat) (mark : List Char) :=
    layout.layFigures 4 (if layout.alternate then mark else []) (.ofNat base n)
  if layout.precision.isSome then .error .precisionOfWhole
  else if layout.positiveZero then .error (.positiveZero .number)
  else
    match layout.code with
    | 'b' => toBase 2 ['0', 'b']
    | 'o' => toBase 8 ['0', 'o']
    | 'x' => toBase 16 ['0', 'x']
    | 'X' =>
      layout.layFigures 4 (if layout.alternate then ['0', 'X'] else []) (Figures.ofNat 16 n).upper
    | 'c' => layout.layCharacter n
    | _ => layout.layFigures 3 [] (.ofNat 10 n)

def precisionLimit : Nat := 2147483648

/-- With as many places or digits as the precision says, six without one. -/
def layReal (layout : Layout) (n : Nat) : Except LayoutFault (List Char) :=
  let precision := layout.precision.getD 6
  if precisionLimit ≤ precision then .error .precisionTooBig
  else
    layout.layFigures 3 [] <| match layout.code with
      | 'e' => .scientific layout.alternate precision n
      | 'E' => (Figures.scientific layout.alternate precision n).upper
      | 'g' => .general layout.alternate precision n
      | 'G' => (Figures.general layout.alternate precision n).upper
      | '%' => .percent layout.alternate precision n
      | _ => .fixed layout.alternate precision n

def layNumber (layout : Layout) (n : Nat) : Except LayoutFault (List Char) :=
  if "dbcoxXn".toList.contains layout.code then layout.layWhole n
  else if "eEfFgG%".toList.contains layout.code then layout.layReal n
  else .error (.unknownCode layout.code .number)

end Layout

end PatchReview
