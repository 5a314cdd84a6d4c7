import PatchReview.Proofs.Schema.Check

/-!
# Values that are written and checked again

A check takes a value in many forms and makes a typed one of it, which is written in one form. The
check restores what is written if it makes the same of that form (`Restores`). Checks that are put
together from others restore what theirs restore.
-/

namespace PatchReview.Schema

variable {check : Check α} {write : α → Json} {fields written : List (String × Json)} {name : String}

/-- What a check makes of a value it makes of the form that this is written in, too. -/
def Restores (check : Check α) (write : α → Json) : Prop :=
  ∀ value a, check value = .valid a → check (write a) = .valid a

theorem restores_text : Restores Check.text .str := fun _ _ _ => rfl

theorem restores_integer : Restores Check.integer .int := fun _ _ _ => rfl

theorem restores_number : Restores Check.number .num := fun _ _ _ => rfl

theorem restores_boolean : Restores Check.boolean .bool := fun _ _ _ => rfl

theorem restores_choice {choices : List (String × α)} {name : α → String}
    (listed : ∀ a, choices.lookup (name a) = some a) (whole : ∀ a, Text.isBroken (name a) = false) :
    Restores (Check.choice choices) (.str ∘ name) := by
  intro _ a _
  simp [Check.choice, Check.wholeText, whole, listed]

theorem itemsFrom_map {items : List α} (each : ∀ a ∈ items, check (write a) = .valid a)
    (index : Nat) : Check.itemsFrom check index (items.map write) = .valid items := by
  induction items generalizing index with
  | nil => rfl
  | cons a rest ih =>
    rw [List.forall_mem_cons] at each
    rw [List.map_cons, Check.itemsFrom, each.1, ih each.2]
    rfl

theorem Restores.items (h : Restores check write) (expected : Expectation) :
    Restores (Check.items expected check) (fun items => .arr (items.map write)) := by
  intro value found valid
  cases value with
  | arr items =>
    refine itemsFrom_map (fun a among => ?_) 0
    obtain ⟨item, -, is⟩ := (mem_of_itemsFrom valid).mp among
    exact h item a is
  | _ => cases valid

-- ---------------------------------------------------------------------------
-- Fields
-- ---------------------------------------------------------------------------

theorem Restores.required (h : Restores check write)
    (valid : Schema.required name check fields = .valid a)
    (stands : written.lookup name = some (write a)) :
    Schema.required name check written = .valid a := by
  obtain ⟨value, -, is⟩ := required_eq_valid.mp valid
  exact required_eq_valid.mpr ⟨write a, stands, h value a is⟩

theorem nullable_of_ne_null (other : value ≠ .null) :
    check.nullable value = (check value).map some := by
  cases value <;> first | rfl | exact absurd rfl other

theorem exists_of_optional_eq_some (valid : optional name check fields = .valid (some a)) :
    ∃ value, check value = .valid a := by
  unfold optional at valid
  split at valid
  · next value _ =>
    rw [Checked.under_eq_valid] at valid
    by_cases absent : value = .null
    · subst absent
      cases valid
    · rw [nullable_of_ne_null absent] at valid
      obtain ⟨found, is, same⟩ := Checked.map_eq_valid.mp valid
      cases same
      exact ⟨value, is⟩
  · cases valid

theorem optional_eq_some (stands : fields.lookup name = some value) (present : value ≠ .null)
    (is : check value = .valid a) : optional name check fields = .valid (some a) := by
  rw [optional, stands]
  show Checked.under _ (check.nullable value) = _
  rw [nullable_of_ne_null present, is]
  rfl

theorem Restores.optional (h : Restores check write) (present : ∀ a, write a ≠ .null)
    (valid : Schema.optional name check fields = .valid found)
    (stands : written.lookup name = some (.ofOption write found)) :
    Schema.optional name check written = .valid found := by
  cases found with
  | none =>
    rw [Schema.optional, stands]
    rfl
  | some a =>
    obtain ⟨value, is⟩ := exists_of_optional_eq_some valid
    exact optional_eq_some stands (present a) (h value a is)

theorem restores_model {read : List (String × Json) → Checked α} {form : α → List (String × Json)}
    (fields : ∀ found a, read found = .valid a → read (form a) = .valid a) (origin : Check.Origin)
    (name : String) : Restores (Check.model origin name read) (fun a => .obj (form a)) := by
  intro value a valid
  obtain ⟨found, -, is⟩ := model_eq_valid.mp valid
  exact fields found a is

end PatchReview.Schema
