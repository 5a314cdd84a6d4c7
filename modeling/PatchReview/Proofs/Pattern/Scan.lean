import PatchReview.Pattern.Scan

/-!
# Scanning part by part

A scan finds nothing exactly if the pattern matches nowhere (`scan_eq_nil`). It
passes over characters at which no match begins (`scan_append`), and goes on after
the text of a match (`scan_of_match`).
-/

namespace PatchReview.Pattern

variable {p : Pattern}

theorem covered_singleton (m : Match) : covered [m] = m.text.length := rfl

theorem matchesAt_eq_nil : p.matchesAt here = [] ↔ p.ends here = [] := by
  have none_iff : p.matchLength? here = none ↔ p.ends here = [] := by
    simp [matchLength?, run_eq_findSome, List.eq_nil_iff_forall_not_mem]
  rw [← none_iff, matchesAt]
  split <;> simp_all

def Barren (p : Pattern) (here : Cursor) : Prop :=
  ∀ passed rest, here.after = passed ++ rest → p.ends ⟨passed.reverse ++ here.before, rest⟩ = []

theorem scan_eq_nil : p.scan 0 before after = [] ↔ p.Barren ⟨before, after⟩ := by
  induction after generalizing before with
  | nil =>
    simp only [scan, if_true, matchesAt_eq_nil, Barren]
    constructor
    · rintro none passed rest whole
      obtain ⟨rfl, rfl⟩ := List.append_eq_nil_iff.mp whole.symm
      exact none
    · intro barren
      exact barren [] [] rfl
  | cons c rest ih =>
    rw [scan, List.append_eq_nil_iff, matchesAt_eq_nil]
    constructor
    · rintro ⟨none, later⟩ passed left whole
      rw [matchesAt_eq_nil.mpr none] at later
      cases passed with
      | nil =>
        obtain rfl : c :: rest = left := whole
        exact none
      | cons d passed =>
        obtain ⟨rfl, rfl⟩ := List.cons.inj whole
        simpa using ih.mp later passed left rfl
    · intro barren
      have none := barren [] (c :: rest) rfl
      refine ⟨none, ?_⟩
      simp only [List.reverse_nil, List.nil_append] at none
      rw [matchesAt_eq_nil.mpr none]
      refine ih.mpr fun passed left whole => ?_
      have later := barren (c :: passed) left (congrArg (c :: ·) whole)
      simpa using later

theorem matchesAt_prefix_scan (p : Pattern) (before after : List Char) :
    p.matchesAt ⟨before, after⟩ <+: p.scan 0 before after := by
  cases after with
  | nil => exact List.prefix_rfl
  | cons c rest => exact List.prefix_append _ _

theorem scan_append {gap : List Char} (after : List Char)
    (nothing : ∀ passed c rest, gap = passed ++ c :: rest →
      p.ends ⟨passed.reverse ++ before, c :: rest ++ after⟩ = []) :
    p.scan 0 before (gap ++ after) = p.scan 0 (gap.reverse ++ before) after := by
  induction gap generalizing before with
  | nil => rfl
  | cons c gap ih =>
    have here := nothing [] c gap rfl
    rw [List.reverse_nil, List.nil_append, List.cons_append] at here
    rw [List.cons_append, scan, matchesAt_eq_nil.mpr here]
    simp only [List.reverse_cons, List.append_assoc, List.singleton_append]
    refine ih fun passed d rest whole => ?_
    have later := nothing (c :: passed) d rest (congrArg (c :: ·) whole)
    simpa using later

theorem scan_taken (before taken after : List Char) :
    p.scan taken.length before (taken ++ after) = p.scan 0 (taken.reverse ++ before) after := by
  induction taken generalizing before with
  | nil => rfl
  | cons c taken ih => simpa [scan] using ih (c :: before)

/-- Of what a set allows for, all is taken if the rest matches after that. -/
theorem runMany_of_taken {set : CharSet} {taken : List Char} {next : Cursor → Option α}
    (inSet : ∀ c ∈ taken, set.has c = true) (stops : set.has stop = false)
    (found : next ⟨taken.reverse ++ before, stop :: after⟩ = some result) :
    runMany set before (taken ++ stop :: after) next = some result := by
  induction taken generalizing before with
  | nil => simpa [runMany, stops] using found
  | cons c taken ih =>
    rw [List.forall_mem_cons] at inSet
    have deeper : runMany set (c :: before) (taken ++ stop :: after) next = some result :=
      ih inSet.2 (by simpa using found)
    simp [runMany, inSet.1, deeper]

theorem scan_of_match {taken : List Char} (some : taken ≠ [])
    (h : p.matchesAt ⟨before, taken ++ after⟩ = [⟨⟨before, taken ++ after⟩, taken⟩]) :
    p.scan 0 before (taken ++ after) =
      ⟨⟨before, taken ++ after⟩, taken⟩ :: p.scan 0 (taken.reverse ++ before) after := by
  cases taken with
  | nil => exact absurd rfl some
  | cons c taken =>
    rw [List.cons_append] at h ⊢
    rw [scan, h, covered_singleton, List.length_cons, Nat.add_sub_cancel, scan_taken]
    simp

end PatchReview.Pattern
