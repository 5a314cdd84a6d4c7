import PatchReview.Schema.Check

/-!
# Values that pass a check

What it takes for a check put together from others to find a value valid: each
part has to find its own part valid, and the value is made of theirs.
-/

namespace PatchReview.Schema

namespace Checked

theorem map_eq_valid {x : Checked α} {f : α → β} :
    x.map f = .valid b ↔ ∃ a, x = .valid a ∧ f a = b := by
  cases x <;> simp [map]

theorem both_eq_valid {f : Checked (α → β)} {x : Checked α} :
    f.both x = .valid b ↔ ∃ g a, f = .valid g ∧ x = .valid a ∧ g a = b := by
  cases f <;> cases x <;> simp [both]

theorem seq_eq_valid {f : Checked (α → β)} {x : Checked α} :
    f <*> x = .valid b ↔ ∃ g a, f = .valid g ∧ x = .valid a ∧ g a = b := both_eq_valid

theorem andThen_eq_valid {x : Checked α} {next : α → Checked β} :
    x.andThen next = .valid b ↔ ∃ a, x = .valid a ∧ next a = .valid b := by
  cases x <;> simp [andThen]

@[simp] theorem under_eq_valid {x : Checked α} : x.under step = .valid a ↔ x = .valid a := by
  cases x <;> simp [under]

@[simp] theorem fail_ne_valid : (fail expected : Checked α) ≠ .valid a := by
  simp [fail]

end Checked

theorem required_eq_valid {check : Check α} :
    required name check fields = .valid a ↔
      ∃ value, fields.lookup name = some value ∧ check value = .valid a := by
  cases h : fields.lookup name <;> simp [required, h]

theorem mem_of_itemsFrom {check : Check α} (h : Check.itemsFrom check index items = .valid listed) :
    a ∈ listed ↔ ∃ item ∈ items, check item = .valid a := by
  induction items generalizing index listed with
  | nil =>
    cases h
    simp
  | cons item rest ih =>
    obtain ⟨_, others, first, later, rfl⟩ := Checked.both_eq_valid.mp h
    obtain ⟨found, is, rfl⟩ := Checked.map_eq_valid.mp first
    rw [Checked.under_eq_valid] at is
    simp [is, ih later, eq_comm]

theorem model_eq_valid {read : List (String × Json) → Checked α} :
    Check.model origin name read value = .valid a ↔
      ∃ fields, value = .obj fields ∧ read fields = .valid a := by
  cases value with
  | obj fields => simp [Check.model]
  | _ => cases origin <;> simp [Check.model]

end PatchReview.Schema
