/-!
# The first and the last place

A text comes apart at the first place from which the rest has a property, and at the last such
place. There is one of each exactly if some rest has the property.
-/

namespace PatchReview

variable {text before after : List α}

section
variable (holds : List α → Prop) [DecidablePred holds]

def splitFirst? : List α → Option (List α × List α)
  | [] => if holds [] then some ([], []) else none
  | c :: rest =>
    if holds (c :: rest) then some ([], c :: rest)
    else (splitFirst? rest).map fun found => (c :: found.1, found.2)

def splitLast? : List α → Option (List α × List α)
  | [] => if holds [] then some ([], []) else none
  | c :: rest =>
    match splitLast? rest with
    | some (before, after) => some (c :: before, after)
    | none => if holds (c :: rest) then some ([], c :: rest) else none

structure IsFirst (text before after : List α) : Prop where
  whole : text = before ++ after
  here : holds after
  first : ∀ passed rest, text = passed ++ rest → holds rest → before.length ≤ passed.length

structure IsLast (text before after : List α) : Prop where
  whole : text = before ++ after
  here : holds after
  last : ∀ passed rest, text = passed ++ rest → holds rest → passed.length ≤ before.length

end

variable {holds : List α → Prop}

theorem IsFirst.unique (h : IsFirst holds text before after) (h' : IsFirst holds text other rest) :
    before = other ∧ after = rest := by
  have short := h.first _ _ h'.whole h'.here
  have long := h'.first _ _ h.whole h.here
  exact List.append_inj (h.whole.symm.trans h'.whole) (Nat.le_antisymm short long)

theorem IsLast.unique (h : IsLast holds text before after) (h' : IsLast holds text other rest) :
    before = other ∧ after = rest := by
  have long := h.last _ _ h'.whole h'.here
  have short := h'.last _ _ h.whole h.here
  exact List.append_inj (h.whole.symm.trans h'.whole) (Nat.le_antisymm short long)

variable [DecidablePred holds]

theorem splitFirst?_eq_none (none : splitFirst? holds text = none) (whole : text = passed ++ rest) :
    ¬ holds rest := by
  induction text generalizing passed with
  | nil =>
    obtain ⟨rfl, rfl⟩ := List.append_eq_nil_iff.mp whole.symm
    simpa [splitFirst?] using none
  | cons c text ih =>
    rw [splitFirst?] at none
    split at none
    · cases none
    · next not =>
      cases passed with
      | nil => rwa [← show c :: text = rest from whole]
      | cons d passed => exact ih (Option.map_eq_none_iff.mp none) (List.cons.inj whole).2

theorem isFirst_of_splitFirst? (found : splitFirst? holds text = some (before, after)) :
    IsFirst holds text before after := by
  induction text generalizing before with
  | nil =>
    rw [splitFirst?] at found
    split at found
    · next here =>
      cases found
      exact ⟨rfl, here, fun _ _ _ _ => Nat.zero_le _⟩
    · cases found
  | cons c text ih =>
    rw [splitFirst?] at found
    split at found
    · next here =>
      cases found
      exact ⟨rfl, here, fun _ _ _ _ => Nat.zero_le _⟩
    · next not =>
      obtain ⟨⟨others, after⟩, later, same⟩ := Option.map_eq_some_iff.mp found
      cases same
      obtain ⟨rfl, here, first⟩ := ih later
      refine ⟨rfl, here, fun passed rest whole holds => ?_⟩
      cases passed with
      | nil =>
        rw [← show _ = rest from whole] at holds
        exact absurd holds not
      | cons d passed => exact Nat.succ_le_succ (first passed rest (List.cons.inj whole).2 holds)

theorem splitFirst?_eq_some :
    splitFirst? holds text = some (before, after) ↔ IsFirst holds text before after := by
  refine ⟨isFirst_of_splitFirst?, fun h => ?_⟩
  cases found : splitFirst? holds text with
  | none => exact absurd h.here (splitFirst?_eq_none found h.whole)
  | some parts =>
    obtain ⟨rfl, rfl⟩ := h.unique (isFirst_of_splitFirst? found)
    rfl

theorem splitLast?_eq_none (none : splitLast? holds text = none) (whole : text = passed ++ rest) :
    ¬ holds rest := by
  induction text generalizing passed with
  | nil =>
    obtain ⟨rfl, rfl⟩ := List.append_eq_nil_iff.mp whole.symm
    simpa [splitLast?] using none
  | cons c text ih =>
    rw [splitLast?] at none
    split at none
    · cases none
    · next later =>
      cases passed with
      | nil =>
        rw [← show c :: text = rest from whole]
        simpa using none
      | cons d passed => exact ih later (List.cons.inj whole).2

theorem isLast_of_splitLast? (found : splitLast? holds text = some (before, after)) :
    IsLast holds text before after := by
  induction text generalizing before with
  | nil =>
    rw [splitLast?] at found
    split at found
    · next here =>
      cases found
      refine ⟨rfl, here, fun passed rest whole _ => ?_⟩
      simp [(List.append_eq_nil_iff.mp whole.symm).1]
    · cases found
  | cons c text ih =>
    rw [splitLast?] at found
    split at found
    · next others rest later =>
      cases found
      obtain ⟨rfl, here, last⟩ := ih later
      refine ⟨rfl, here, fun passed rest whole holds => ?_⟩
      cases passed with
      | nil => exact Nat.zero_le _
      | cons d passed => exact Nat.succ_le_succ (last passed rest (List.cons.inj whole).2 holds)
    · next later =>
      split at found
      · next here =>
        cases found
        refine ⟨rfl, here, fun passed rest whole holds => ?_⟩
        cases passed with
        | nil => exact Nat.le_refl _
        | cons d passed =>
          exact absurd holds (splitLast?_eq_none later (List.cons.inj whole).2)
      · cases found

theorem splitLast?_eq_some :
    splitLast? holds text = some (before, after) ↔ IsLast holds text before after := by
  refine ⟨isLast_of_splitLast?, fun h => ?_⟩
  cases found : splitLast? holds text with
  | none => exact absurd h.here (splitLast?_eq_none found h.whole)
  | some parts =>
    obtain ⟨rfl, rfl⟩ := h.unique (isLast_of_splitLast? found)
    rfl

end PatchReview
