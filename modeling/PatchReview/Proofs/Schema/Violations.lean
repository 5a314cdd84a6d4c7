import PatchReview.Proofs.Schema.Check

/-!
# Values that fail a check

A check that is put together from others has the violations of all of them, in their order,
and finds a value valid if there are none. Those of a field stand under its name, those of an
item under its index (`finds_itemsFrom`).
-/

namespace PatchReview.Schema

/-- What is wrong with a value: just these violations. Without any the value is valid. -/
inductive Checked.Finds : Checked α → List Violation → Prop
  | valid (a : α) : Finds (.valid a) []
  | invalid {found : List Violation} (some : found ≠ []) : Finds (.invalid found) found

namespace Checked

variable {x : Checked α} {found : List Violation}

theorem finds_fail (expected : Expectation) : (fail expected : Checked α).Finds [⟨[], expected⟩] :=
  .invalid (List.cons_ne_nil _ _)

theorem Finds.exists_valid (h : x.Finds found) (none : found = []) : ∃ a, x = .valid a := by
  cases h with
  | valid a => exact ⟨a, rfl⟩
  | invalid some => exact absurd none some

theorem Finds.eq_invalid (h : x.Finds found) (some : found ≠ []) : x = .invalid found := by
  cases h with
  | valid => exact absurd rfl some
  | invalid => rfl

theorem Finds.eq_nil (h : x.Finds found) (is : x = .valid a) : found = [] := by
  subst is
  cases h
  rfl

theorem Finds.map (h : x.Finds found) (f : α → β) : (x.map f).Finds found := by
  cases h with
  | valid a => exact .valid (f a)
  | invalid some => exact .invalid some

theorem Finds.under (h : x.Finds found) (step : Step) :
    (x.under step).Finds (found.map (·.under step)) := by
  cases h with
  | valid a => exact .valid a
  | invalid some => exact .invalid (by simpa using some)

theorem Finds.both {f : Checked (α → β)} (hf : f.Finds first) (hx : x.Finds found) :
    (f.both x).Finds (first ++ found) := by
  cases hf with
  | valid f =>
    cases hx with
    | valid a => exact .valid (f a)
    | invalid some => exact .invalid some
  | @invalid first some =>
    cases hx with
    | valid a =>
      rw [List.append_nil]
      exact .invalid some
    | invalid => exact .invalid (by simp [some])

end Checked

variable {check : Check α} {faults : Json → List Violation}

def fieldFaults (name : String) (faults : Json → List Violation) (fields : List (String × Json)) :
    List Violation :=
  match fields.lookup name with
  | none => [⟨[.field name], .required⟩]
  | some value => (faults value).map (·.under (.field name))

theorem finds_required (own : ∀ value, (check value).Finds (faults value)) (name : String)
    (fields : List (String × Json)) :
    (required name check fields).Finds (fieldFaults name faults fields) := by
  unfold required fieldFaults
  cases fields.lookup name with
  | none => exact (Checked.finds_fail .required).under (.field name)
  | some value => exact (own value).under (.field name)

theorem fieldFaults_eq_nil {name : String} {fields : List (String × Json)} :
    fieldFaults name faults fields = [] ↔
      ∃ value, fields.lookup name = some value ∧ faults value = [] := by
  unfold fieldFaults
  cases fields.lookup name <;> simp

def itemFaults (faults : Json → List Violation) (items : List Json) (index : Nat) :
    List Violation :=
  (items.zipIdx index).flatMap fun item => (faults item.1).map (·.under (.index item.2))

theorem finds_itemsFrom (own : ∀ value, (check value).Finds (faults value)) (items : List Json)
    (index : Nat) : (Check.itemsFrom check index items).Finds (itemFaults faults items index) := by
  induction items generalizing index with
  | nil => exact .valid []
  | cons item rest ih =>
    rw [itemFaults, List.zipIdx_cons, List.flatMap_cons]
    exact (((own item).under (.index index)).map List.cons).both (ih (index + 1))

theorem itemFaults_eq_nil {items : List Json} {index : Nat} :
    itemFaults faults items index = [] ↔ ∀ item ∈ items, faults item = [] := by
  induction items generalizing index with
  | nil => simp [itemFaults]
  | cons item rest ih =>
    unfold itemFaults at ih ⊢
    rw [List.zipIdx_cons, List.flatMap_cons, List.append_eq_nil_iff, ih]
    simp

end PatchReview.Schema
