import PatchReview.Proofs.Pattern.Longest

/-!
# Reluctant groups

A group that takes as little as possible stands between an opening and a closing that have to
take a whole text. It takes the shortest text after which the closing takes all that is left
(`reluctant?`), for the first of the matches of the opening that leave such a text (`group?`).
-/

namespace PatchReview.Pattern

variable {p opening closing : Pattern} {word : String} {before taken after : List Char}

def takesAll (p : Pattern) (here : Cursor) : Bool := (p.ends here).any (·.after.isEmpty)

/-- The shortest text from here after which a pattern takes all that is left. -/
def reluctant? (closing : Pattern) (before after : List Char) : Option (List Char) :=
  if closing.takesAll ⟨before, after⟩ then some []
  else
    match after with
    | [] => none
    | c :: rest => (reluctant? closing (c :: before) rest).map (c :: ·)

/-- What the group between an opening and a closing takes of a whole text. -/
def group? (opening closing : Pattern) (text : List Char) : Option (List Char) :=
  opening.run (.start text) fun there => reluctant? closing there.before there.after

theorem takesAll_iff : p.takesAll ⟨before, after⟩ = true ↔ p.Spans before after [] := by
  simp only [takesAll, List.any_eq_true, List.isEmpty_iff]
  constructor
  · rintro ⟨there, reached, ends⟩
    obtain ⟨taken, starts, spans⟩ := exists_spans reached
    rw [ends] at starts spans
    obtain rfl : after = taken := starts.trans (List.append_nil taken)
    exact spans
  · intro spans
    exact ⟨_, by simpa [Spans] using spans, rfl⟩

/-- What a reluctant group takes leaves a text that the closing takes. -/
theorem exists_of_reluctant?_eq_some (h : reluctant? closing before after = some taken) :
    ∃ rest, after = taken ++ rest ∧ closing.Spans (taken.reverse ++ before) rest [] := by
  induction after generalizing before taken with
  | nil =>
    rw [reluctant?] at h
    split at h
    · next all =>
      cases h
      exact ⟨[], rfl, takesAll_iff.mp all⟩
    · cases h
  | cons c rest ih =>
    rw [reluctant?] at h
    split at h
    · next all =>
      cases h
      exact ⟨c :: rest, rfl, takesAll_iff.mp all⟩
    · obtain ⟨others, found, rfl⟩ := Option.map_eq_some_iff.mp h
      obtain ⟨left, rfl, spans⟩ := ih found
      exact ⟨left, rfl, by simpa using spans⟩

theorem exists_of_group?_eq_some (h : group? opening closing text = some taken) :
    ∃ first last, text = first ++ (taken ++ last) ∧ opening.Spans [] first (taken ++ last) ∧
      closing.Spans (taken.reverse ++ first.reverse) last [] := by
  rw [group?, run_eq_findSome] at h
  obtain ⟨there, reached, found⟩ := List.exists_of_findSome?_eq_some h
  obtain ⟨first, starts, past⟩ := exists_past reached
  obtain ⟨last, follows, closes⟩ := exists_of_reluctant?_eq_some found
  rw [past, follows] at reached
  rw [past] at closes
  have whole : text = first ++ there.after := congrArg Cursor.after starts
  rw [follows] at whole
  refine ⟨first, last, whole, ?_, by simpa [Cursor.start] using closes⟩
  rw [Spans, ← whole]
  exact reached

-- ---------------------------------------------------------------------------
-- Literals
-- ---------------------------------------------------------------------------

theorem run_literal_of_spells (spells : Text.Spells taken word) (before after : List Char)
    (next : Cursor → Option α) :
    (literal word).run ⟨before, taken ++ after⟩ next = next ⟨taken.reverse ++ before, after⟩ := by
  have reached : ⟨taken.reverse ++ before, after⟩ ∈ (literal word).ends ⟨before, taken ++ after⟩ :=
    spans_literal.mpr spells
  have single : ((literal word).ends ⟨before, taken ++ after⟩).length ≤ 1 :=
    length_ends_letters word.toList _
  rw [run_eq_findSome]
  cases all : (literal word).ends ⟨before, taken ++ after⟩ with
  | nil =>
    rw [all] at reached
    cases reached
  | cons there others =>
    rw [all] at reached single
    obtain rfl : others = [] := by simpa using single
    rw [List.mem_singleton.mp reached]
    simp

theorem run_literal_of_not_begins (other : ¬ Text.Begins after word) (before : List Char)
    (next : Cursor → Option α) : (literal word).run ⟨before, after⟩ next = none := by
  have none : (literal word).ends ⟨before, after⟩ = [] := by
    refine ends_eq_nil.mpr fun taken rest whole spans => other ?_
    exact Text.begins_iff.mpr ⟨taken, rest, whole, spans_literal.mp spans⟩
  rw [run_eq_findSome, none]
  rfl

end PatchReview.Pattern
