import Mathlib.Control.Monad.Basic
import PatchReview.Json.Basic

/-!
# Equality of JSON values

Whether two values are the same can be computed, so that a reader can be run on
a text and its answer compared.
-/

namespace PatchReview.Json

mutual
def same : Json → Json → Bool
  | null, null => true
  | bool a, bool b => a == b
  | int a, int b => a == b
  | num a, num b => a == b
  | str a, str b => a == b
  | arr a, arr b => sameItems a b
  | obj a, obj b => sameFields a b
  | _, _ => false
def sameItems : List Json → List Json → Bool
  | [], [] => true
  | a :: rest, b :: others => same a b && sameItems rest others
  | _, _ => false
def sameFields : List (String × Json) → List (String × Json) → Bool
  | [], [] => true
  | (name, a) :: rest, (other, b) :: others => name == other && same a b && sameFields rest others
  | _, _ => false
end

mutual
theorem same_iff (a b : Json) : same a b = true ↔ a = b := by
  cases a <;> cases b <;> simp [same, sameItems_iff, sameFields_iff]
theorem sameItems_iff (items others : List Json) :
    sameItems items others = true ↔ items = others := by
  cases items <;> cases others <;> simp [sameItems, same_iff, sameItems_iff]
theorem sameFields_iff (fields others : List (String × Json)) :
    sameFields fields others = true ↔ fields = others := by
  cases fields <;> cases others <;> simp [sameFields, same_iff, sameFields_iff, Prod.ext_iff]
end

instance : DecidableEq Json := fun a b => decidable_of_iff _ (same_iff a b)

end PatchReview.Json
