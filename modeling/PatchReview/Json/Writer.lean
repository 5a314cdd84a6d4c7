import PatchReview.Json.Basic
import PatchReview.Number.Decimal
import PatchReview.Text.Hex
import PatchReview.Text.Surrogate

/-!
# Writing JSON text

Three layouts: `compact` on one line, `indented` by two spaces a level, and
`dense` without any spaces. The first two write ASCII only and escape every
other character as 16-bit units; the last one escapes what it has to. All keep
the order of fields.
-/

namespace PatchReview.Json

def unitEscape (unit : Nat) : List Char := '\\' :: 'u' :: Text.hexDigits 4 unit

def escapeChar (c : Char) : List Char :=
  let n := Text.codeOf c
  if c == '"' then ['\\', '"']
  else if c == '\\' then ['\\', '\\']
  else if c == '\n' then ['\\', 'n']
  else if c == '\r' then ['\\', 'r']
  else if c == '\t' then ['\\', 't']
  else if n == 8 then ['\\', 'b']
  else if n == 12 then ['\\', 'f']
  else if 32 ≤ n && n < 127 then [c]
  else if n < 0x10000 then unitEscape n
  else unitEscape (0xD800 + (n - 0x10000) / 1024) ++ unitEscape (0xDC00 + (n - 0x10000) % 1024)

def writeString (s : String) : String :=
  String.ofList ('"' :: s.toList.flatMap escapeChar ++ ['"'])

def writeNumber : Binary64 → String
  | .infinite negative => if negative then "-Infinity" else "Infinity"
  | .nan => "NaN"
  | x => x.text

mutual
def compact : Json → String
  | .null => "null"
  | .bool value => if value then "true" else "false"
  | .int value => toString value
  | .num value => writeNumber value
  | .str value => writeString value
  | .arr items => "[" ++ ", ".intercalate (compactItems items) ++ "]"
  | .obj fields => "\x7b" ++ ", ".intercalate (compactFields fields) ++ "\x7d"
def compactItems : List Json → List String
  | [] => []
  | item :: rest => item.compact :: compactItems rest
def compactFields : List (String × Json) → List String
  | [] => []
  | (name, value) :: rest => (writeString name ++ ": " ++ value.compact) :: compactFields rest
end

/-- Lines at a level inside the brackets of the level before it. -/
def block (level : Nat) (opening closing : String) (lines : List String) : String :=
  let indent (level : Nat) := "\n" ++ String.ofList (List.replicate (2 * level) ' ')
  opening ++ indent (level + 1) ++ ("," ++ indent (level + 1)).intercalate lines ++
    indent level ++ closing

mutual
def indentedAt (level : Nat) : Json → String
  | .arr [] => "[]"
  | .obj [] => "\x7b\x7d"
  | .arr items => block level "[" "]" (indentedItems (level + 1) items)
  | .obj fields => block level "\x7b" "\x7d" (indentedFields (level + 1) fields)
  | .null => "null"
  | .bool value => if value then "true" else "false"
  | .int value => toString value
  | .num value => writeNumber value
  | .str value => writeString value
def indentedItems (level : Nat) : List Json → List String
  | [] => []
  | item :: rest => item.indentedAt level :: indentedItems level rest
def indentedFields (level : Nat) : List (String × Json) → List String
  | [] => []
  | (name, value) :: rest =>
    (writeString name ++ ": " ++ value.indentedAt level) :: indentedFields level rest
end

def indented (j : Json) : String := j.indentedAt 0

def denseChar (c : Char) : List Char :=
  if c.toNat < 32 || c == '"' || c == '\\' then escapeChar c else [c]

def denseString (s : String) : String :=
  String.ofList ('"' :: s.toList.flatMap denseChar ++ ['"'])

mutual
def dense : Json → String
  | .null => "null"
  | .bool value => if value then "true" else "false"
  | .int value => toString value
  | .num value => writeNumber value
  | .str value => denseString value
  | .arr items => "[" ++ ",".intercalate (denseItems items) ++ "]"
  | .obj fields => "\x7b" ++ ",".intercalate (denseFields fields) ++ "\x7d"
def denseItems : List Json → List String
  | [] => []
  | item :: rest => item.dense :: denseItems rest
def denseFields : List (String × Json) → List String
  | [] => []
  | (name, value) :: rest => (denseString name ++ ":" ++ value.dense) :: denseFields rest
end

end PatchReview.Json
