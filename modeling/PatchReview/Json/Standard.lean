import PatchReview.Json.Basic

/-!
# Standard JSON

Standard JSON has no infinite numbers and nothing for what is no number. A
value with such numbers is not standard; with null in their place it is.
-/

namespace PatchReview.Json

mutual
/-- Whether all numbers in a value are finite. -/
def isStandard : Json → Bool
  | .num value => value.isFinite
  | .arr items => areStandard items
  | .obj fields => haveStandard fields
  | _ => true
def areStandard : List Json → Bool
  | [] => true
  | item :: rest => item.isStandard && areStandard rest
def haveStandard : List (String × Json) → Bool
  | [] => true
  | (_, value) :: rest => value.isStandard && haveStandard rest
end

mutual
/-- The value with null for every number that is not finite. -/
def standard : Json → Json
  | .num value => if value.isFinite then .num value else .null
  | .arr items => .arr (standardItems items)
  | .obj fields => .obj (standardFields fields)
  | value => value
def standardItems : List Json → List Json
  | [] => []
  | item :: rest => item.standard :: standardItems rest
def standardFields : List (String × Json) → List (String × Json)
  | [] => []
  | (name, value) :: rest => (name, value.standard) :: standardFields rest
end

mutual
theorem isStandard_standard : (value : Json) → value.standard.isStandard = true
  | .null | .bool _ | .int _ | .str _ => rfl
  | .num value => by
    unfold standard
    split
    · next finite => exact finite
    · rfl
  | .arr items => areStandard_standardItems items
  | .obj fields => haveStandard_standardFields fields
theorem areStandard_standardItems : (items : List Json) → areStandard (standardItems items) = true
  | [] => rfl
  | item :: rest => by
    simp [standardItems, areStandard, isStandard_standard item, areStandard_standardItems rest]
theorem haveStandard_standardFields :
    (fields : List (String × Json)) → haveStandard (standardFields fields) = true
  | [] => rfl
  | (_, value) :: rest => by
    simp [standardFields, haveStandard, isStandard_standard value, haveStandard_standardFields rest]
end

mutual
def texts : Json → List String
  | .str value => [value]
  | .arr items => itemTexts items
  | .obj fields => fieldTexts fields
  | _ => []
def itemTexts : List Json → List String
  | [] => []
  | item :: rest => item.texts ++ itemTexts rest
def fieldTexts : List (String × Json) → List String
  | [] => []
  | (name, value) :: rest => name :: value.texts ++ fieldTexts rest
end

end PatchReview.Json
