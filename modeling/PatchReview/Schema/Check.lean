import PatchReview.Json.Basic
import PatchReview.Number.Numeral
import PatchReview.Schema.Violation
import PatchReview.Text.Surrogate

/-!
# Checking JSON values

A check turns a value into a typed one or lists every violation, those of
earlier fields first. Numbers and truth values are read leniently: a whole
number may come as a number without fraction, a truth value or a numeric
string; texts, choices and containers are taken as they are. Fields that a
check does not ask for are ignored.
-/

namespace PatchReview.Schema

inductive Checked (α : Type) where
  | valid (value : α)
  | invalid (violations : List Violation)
  deriving Repr

namespace Checked

def map (f : α → β) : Checked α → Checked β
  | valid value => valid (f value)
  | invalid violations => invalid violations

/-- Both parts are checked, and the violations of both are kept. -/
def both (f : Checked (α → β)) (x : Checked α) : Checked β :=
  match f, x with
  | valid f, valid value => valid (f value)
  | valid _, invalid violations => invalid violations
  | invalid violations, valid _ => invalid violations
  | invalid first, invalid second => invalid (first ++ second)

instance : Applicative Checked where
  map := Checked.map
  pure := valid
  seq f x := f.both (x ())

def andThen (x : Checked α) (next : α → Checked β) : Checked β :=
  match x with
  | valid value => next value
  | invalid violations => invalid violations

def under (step : Step) : Checked α → Checked α
  | valid value => valid value
  | invalid violations => invalid (violations.map (·.under step))

def fail (expected : Expectation) : Checked α := invalid [⟨[], expected⟩]

def toExcept : Checked α → Except (List Violation) α
  | valid value => .ok value
  | invalid violations => .error violations

end Checked

abbrev Check (α : Type) := Json → Checked α

namespace Check

/-- Goes on with a text unless it holds half of a surrogate pair. -/
def wholeText (text : String) (next : String → Checked α) : Checked α :=
  if Text.isBroken text then .fail .unicodeText else next text

def text : Check String
  | .str value => .valid value
  | _ => .fail .text

def wordBound : Int := 9223372036854775808

def inWordRange (n : Int) : Bool := -wordBound < n && n < wordBound

def integer : Check Int
  | .int value => .valid value
  | .bool value => .valid (if value then 1 else 0)
  | .num value =>
    match value.truncate? with
    | none => .fail .finite
    | some whole =>
      if !value.isWhole then .fail .wholeNumber
      else if inWordRange whole then .valid whole
      else .fail .integerSize
  | .str value =>
    wholeText value fun text =>
      match Numeral.whole? text with
      | .ok whole => .valid whole
      | .error .notWhole => .fail .integerText
      | .error .tooLong => .fail .integerSize
  | _ => .fail .integer

def number : Check Binary64
  | .num value => .valid value
  | .int value =>
    match Binary64.ofInt? value with
    | some value => .valid value
    | none => .fail .number
  | .bool value => .valid (.ofNat (if value then 1 else 0))
  | .str value =>
    wholeText value fun text =>
      match Numeral.real? text with
      | some value => .valid value
      | none => .fail .numberText
  | _ => .fail .number

def trueWords : List String := ["1", "on", "t", "true", "y", "yes"]
def falseWords : List String := ["0", "off", "f", "false", "n", "no"]

def truthOf (whole : Int) : Checked Bool :=
  if whole = 0 then .valid false else if whole = 1 then .valid true else .fail .booleanText

def boolean : Check Bool
  | .bool value => .valid value
  | .int value => if inWordRange value then truthOf value else .fail .boolean
  | .num value =>
    match value.truncate? with
    | some whole => if value.isWhole && inWordRange whole then truthOf whole else .fail .boolean
    | none => .fail .boolean
  | .str value =>
    wholeText value fun text =>
      let word := text.map Char.toLower
      if trueWords.contains word then .valid true
      else if falseWords.contains word then .valid false
      else .fail .booleanText
  | _ => .fail .boolean

def choice (choices : List (String × α)) : Check α
  | .str value =>
    wholeText value fun text =>
      match choices.lookup text with
      | some found => .valid found
      | none => .fail (.oneOf (choices.map (·.1)))
  | _ => .fail (.oneOf (choices.map (·.1)))

def nullable (check : Check α) : Check (Option α)
  | .null => .valid none
  | value => (check value).map some

/-- The items from an index on. -/
def itemsFrom (check : Check α) (index : Nat) : List Json → Checked (List α)
  | [] => .valid []
  | item :: rest =>
    (((check item).under (.index index)).map List.cons).both (itemsFrom check (index + 1) rest)

/-- The items of an array; anything else fails as `expected` says. -/
def items (expected : Expectation) (check : Check α) : Check (List α)
  | .arr values => itemsFrom check 0 values
  | _ => .fail expected

def dictionary : Check (List (String × Json))
  | .obj fields => .valid fields
  | _ => .fail .dictionary

/-- Where a model comes from decides how a value that is no object is reported. -/
inductive Origin where
  | document
  | request
  deriving DecidableEq, Repr

def model (origin : Origin) (name : String) (fields : List (String × Json) → Checked α) : Check α
  | .obj found => fields found
  | _ =>
    match origin with
    | .document => .fail (.model name)
    | .request => .fail .attributes

end Check

def required (name : String) (check : Check α) (fields : List (String × Json)) : Checked α :=
  match fields.lookup name with
  | some value => (check value).under (.field name)
  | none => (Checked.fail .required).under (.field name)

/-- A field that may be null or left out. -/
def optional (name : String) (check : Check α) (fields : List (String × Json)) :
    Checked (Option α) :=
  match fields.lookup name with
  | some value => (check.nullable value).under (.field name)
  | none => .valid none

end PatchReview.Schema
