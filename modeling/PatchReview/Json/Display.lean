import PatchReview.Json.Basic
import PatchReview.Number.Decimal
import PatchReview.Text.Quoted

/-!
# Values inside messages

A value that ends up in a message or a URL is shown as a literal: a text as it
is, a text inside another value quoted, and the constants as `None`, `True`
and `False`.
-/

namespace PatchReview.Json

mutual
def literal : Json → String
  | .null => "None"
  | .bool value => if value then "True" else "False"
  | .int value => toString value
  | .num value => value.text
  | .str value => Text.quote value
  | .arr items => "[" ++ ", ".intercalate (literalItems items) ++ "]"
  | .obj fields => "\x7b" ++ ", ".intercalate (literalFields fields) ++ "\x7d"
def literalItems : List Json → List String
  | [] => []
  | item :: rest => item.literal :: literalItems rest
def literalFields : List (String × Json) → List String
  | [] => []
  | (name, value) :: rest => (Text.quote name ++ ": " ++ value.literal) :: literalFields rest
end

def display : Json → String
  | .str value => value
  | other => other.literal

end PatchReview.Json
