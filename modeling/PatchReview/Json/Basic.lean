import PatchReview.Number.Binary64

/-!
# JSON values

Whole numbers are kept exactly and apart from double-precision ones, which may
be infinite or no number at all. The fields of an object keep the order in
which their names first appear.
-/

namespace PatchReview

inductive Json where
  | null
  | bool (value : Bool)
  | int (value : Int)
  | num (value : Binary64)
  | str (value : String)
  | arr (items : List Json)
  | obj (fields : List (String × Json))
  deriving Repr, Inhabited

/-- Sets a field: in place if the name is there, else at the end. -/
def putField (name : String) (value : α) : List (String × α) → List (String × α)
  | [] => [(name, value)]
  | (key, old) :: rest =>
    if key = name then (key, value) :: rest else (key, old) :: putField name value rest

namespace Json

def field? (name : String) : Json → Option Json
  | .obj fields => fields.lookup name
  | _ => none

/-- Null, false, zero and everything empty count as absent. -/
def isPresent : Json → Bool
  | .null => false
  | .bool value => value
  | .int value => value != 0
  | .num value => !value.isZero
  | .str value => !value.isEmpty
  | .arr items => !items.isEmpty
  | .obj fields => !fields.isEmpty

mutual
/-- How many values stand inside each other, a value that holds none being
one. -/
def depth : Json → Nat
  | .arr items => itemsDepth items + 1
  | .obj fields => fieldsDepth fields + 1
  | _ => 1
def itemsDepth : List Json → Nat
  | [] => 0
  | item :: rest => max item.depth (itemsDepth rest)
def fieldsDepth : List (String × Json) → Nat
  | [] => 0
  | (_, value) :: rest => max value.depth (fieldsDepth rest)
end

def ofOption (inject : α → Json) : Option α → Json
  | none => .null
  | some value => inject value

end Json

end PatchReview
