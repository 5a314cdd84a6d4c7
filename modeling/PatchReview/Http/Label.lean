import PatchReview.Encoding.Punycode
import PatchReview.Text.Accent
import PatchReview.Text.NameChar

/-!
# Labels of international names

The name of a host is made of labels with dots between them. A label in any
script has one spelling: accents are part of their letters where that is one
character, hyphens stand inside, and the letters of right-to-left scripts
stand apart from others. On the network such a label is written in ASCII after
`xn--`, and has its limit in length there. Capitals stand for their lower-case
letters, but what is written in ASCII tells of the latter only.
-/

namespace PatchReview.Http.Label

open Text (isMark isNonspacing isNameChar direction Direction nameLower)

/-! ## Characters that need company -/

def skipMarks (text : List Char) : Option Char := (text.dropWhile isNonspacing).head?

def isArabicDigit (c : Char) : Bool := 0x0660 ≤ c.toNat && c.toNat ≤ 0x0669

def isPersianDigit (c : Char) : Bool := 0x06F0 ≤ c.toNat && c.toNat ≤ 0x06F9

/-- Whether a character may stand between those before it, the nearest first,
and those after it. A joiner follows a mark that joins consonants, a non-joiner
also stands between letters that would join; the dot of Catalan stands between
two letters l. -/
def isAllowed (before : List Char) (c : Char) (after : List Char) : Bool :=
  let afterVirama := before.head?.any fun d => Text.markOrder d == 9
  match c with
  | '\u200d' => afterVirama
  | '\u200c' =>
    afterVirama ||
      ((skipMarks before).any (Text.joinsNextRanges.has ·.toNat) &&
        (skipMarks after).any (Text.joinsPreviousRanges.has ·.toNat))
  | '\u00b7' => before.head? == some 'l' && after.head? == some 'l'
  | '\u0375' => after.head?.any (Text.greekRanges.has ·.toNat)
  | '\u05f3' | '\u05f4' => before.head?.any (Text.hebrewRanges.has ·.toNat)
  | '\u30fb' => (before ++ after).any (Text.japaneseRanges.has ·.toNat)
  | c =>
    if isArabicDigit c then !(before ++ after).any isPersianDigit
    else if isPersianDigit c then !(before ++ after).any isArabicDigit
    else isNameChar c

/-- Whether all characters are allowed after those before them. -/
def areAllowed (before : List Char) : List Char → Bool
  | [] => true
  | c :: after => isAllowed before c after && areAllowed (c :: before) after

/-! ## Spelling and direction -/

def hasHyphensInside (label : List Char) : Bool :=
  label.head? != some '-' && label.getLast? != some '-' &&
    (label.drop 2).take 2 != ['-', '-']

def lastDirection? (directions : List Direction) : Option Direction :=
  (directions.reverse.dropWhile (· == .mark)).head?

/-- Scripts from right to left stand without letters of the others, with
numbers of one kind, and end in a letter or a number. -/
def keepsDirection (label : List Char) : Bool :=
  let directions := label.map direction
  let has (d : Direction) := directions.contains d
  if !has .rightToLeft && !has .arabicNumber then true
  else
    directions.head? == some .rightToLeft && !has .leftToRight &&
      !(has .number && has .arabicNumber) && lastDirection? directions != some .neutral

def isSpelling (label : List Char) : Bool :=
  !label.isEmpty && Text.composed label == label && hasHyphensInside label && !label.head?.any isMark &&
    areAllowed [] label && keepsDirection label

/-! ## Labels on the network -/

def lengthLimit : Nat := 63

def encodedStart : List Char := ['x', 'n', '-', '-']

def isAsciiLabel (label : List Char) : Bool :=
  if encodedStart.isPrefixOf label then
    let written := label.drop 4
    !written.isEmpty && written.getLast? != some '-' &&
      (Punycode.decode? written).any fun label =>
        isSpelling label && label.flatMap nameLower == label
  else isSpelling label

def written? (label : List Char) : Option (List Char) :=
  let label := label.flatMap nameLower
  let isAscii := label.all (·.toNat < 128)
  let written := if isAscii then label else encodedStart ++ Punycode.encode label
  let isValid := if isAscii then isAsciiLabel label else isSpelling label
  if isValid && written.length ≤ lengthLimit then some written else none

end PatchReview.Http.Label
