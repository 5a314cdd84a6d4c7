import PatchReview.CommandLine.Flag
import PatchReview.Text.Digit

/-!
# Words of a command line

Words are classified before any of them counts: a flag may be shortened as
long as it stays unambiguous, and a lone double dash makes all words after it
values. Then every flag is grouped with the values right after it.
-/

namespace PatchReview.CommandLine

inductive Word where
  | value (text : String)
  /-- An option, or what looks like an unknown one, with a value that came
  after an equals sign. -/
  | option (text : String) (flag : Option Flag) (value : Option String)
  | separator
  deriving DecidableEq, Repr

def splitValue (text : List Char) : List Char × Option (List Char) :=
  match text.dropWhile (· != '=') with
  | '=' :: value => (text.takeWhile (· != '='), some value)
  | _ => (text, none)

def withoutLineEnd (text : List Char) : List Char :=
  if text.getLast? == some '\n' then text.dropLast else text

/-- Whether a text is a minus sign and a plain decimal number, which a line feed
may follow. -/
def isNegativeNumber (text : List Char) : Bool :=
  match withoutLineEnd text with
  | '-' :: digits =>
    let isDigit (c : Char) : Bool := (Text.digit? c).isSome
    let whole := digits.takeWhile isDigit
    match digits.dropWhile isDigit with
    | [] => !whole.isEmpty
    | '.' :: fraction => !fraction.isEmpty && fraction.all isDigit
    | _ => false
  | _ => false

/-- A word that begins with a dash and is no option: a value if it looks like a
negative number or holds a space. -/
def otherDash (text : String) : Word :=
  if isNegativeNumber text.toList || text.toList.contains ' ' then .value text
  else .option text none none

def classify (text : String) : Except UsageError Word :=
  match text.toList with
  | '-' :: '-' :: _ =>
    let (name, value) := splitValue text.toList
    match Flag.all.find? (·.spelling == String.ofList name) with
    | some flag => .ok (.option text (some flag) (value.map String.ofList))
    | none =>
      match Flag.all.filter (fun flag => name.isPrefixOf flag.spelling.toList) with
      | [] => .ok (otherDash text)
      | [flag] => .ok (.option text (some flag) (value.map String.ofList))
      | candidates => .error (.ambiguous text candidates)
  | ['-'] => .ok (.value text)
  | ['-', 'h'] => .ok (.option text (some .help) none)
  | '-' :: 'h' :: rest =>
    -- letters after a one-letter option are further ones
    let rest := match rest with
      | '=' :: value => value
      | rest => rest
    match rest.dropWhile (· == 'h') with
    | [] => .ok (.option text (some .help) none)
    | others => .ok (.option text (some .help) (some (String.ofList others)))
  | '-' :: _ => .ok (otherDash text)
  | _ => .ok (.value text)

def classifyAll : List String → Except UsageError (List Word)
  | [] => .ok []
  | text :: rest =>
    if text = "--" then .ok (.separator :: rest.map .value)
    else do
      let first ← classify text
      let others ← classifyAll rest
      return first :: others

structure Group where
  text : String
  flag : Option Flag
  value : Option String
  following : List String
  deriving Repr

/-- Values before the first option, options with the values after them, and
what begins with the separator. -/
structure Grouped where
  leading : List String := []
  groups : List Group := []
  trailing : List String := []
  deriving Repr

def Grouped.add (word : Word) (grouped : Grouped) : Grouped :=
  match word with
  | .value text => { grouped with leading := text :: grouped.leading }
  | .option text flag value =>
    { grouped with leading := [], groups := ⟨text, flag, value, grouped.leading⟩ :: grouped.groups }
  | .separator => { leading := [], groups := [], trailing := "--" :: grouped.leading }

def group (words : List Word) : Grouped := words.foldr Grouped.add {}

end PatchReview.CommandLine
