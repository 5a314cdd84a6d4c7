import PatchReview.Proofs.Pattern.Spans

/-!
# Scans step by step

A scan for a pattern that always takes something passes over a character where nothing
matches, or takes the match it finds and goes on behind that (`TakesSome.scans`). So wherever
the pattern matches, a match that was found begins or goes on (`Scans.exists_over`), and
no two of them overlap (`Scans.apart`).
-/

namespace PatchReview

def Match.stop (m : Match) : Nat := m.start.before.length + m.text.length

namespace Pattern

inductive Scans (p : Pattern) : List Char → List Char → List Match → Prop
  | done (before : List Char) : Scans p before [] []
  | pass {before : List Char} {c : Char} {rest : List Char} {found : List Match}
      (none : p.ends ⟨before, c :: rest⟩ = []) (later : Scans p (c :: before) rest found) :
      Scans p before (c :: rest) found
  | take {before taken after : List Char} {found : List Match} (some : taken ≠ [])
      (finds : p.Finds before taken after)
      (later : Scans p (taken.reverse ++ before) after found) :
      Scans p before (taken ++ after) (⟨⟨before, taken ++ after⟩, taken⟩ :: found)

variable {p : Pattern} {before after : List Char} {found : List Match}

theorem Scans.scan_eq (takes : p.TakesSome) (run : p.Scans before after found) :
    p.scan 0 before after = found := by
  induction run with
  | done before =>
    refine matchesAt_eq_nil.mpr (ends_eq_nil.mpr ?_)
    intro taken rest whole
    obtain ⟨rfl, rfl⟩ := List.append_eq_nil_iff.mp whole.symm
    exact takes before []
  | pass none later ih =>
    rw [scan, matchesAt_eq_nil.mpr none]
    exact ih
  | take some finds later ih => rw [scan_of_match some finds, ih]

theorem TakesSome.scans (takes : p.TakesSome) (before after : List Char) :
    p.Scans before after (p.scan 0 before after) := by
  -- The text that is left gets shorter with each step, by more than one character if a match
  -- is taken.
  induction long : after.length using Nat.strongRecOn generalizing before after with
  | _ n ih =>
    obtain _ | ⟨c, rest⟩ := after
    · rw [(Scans.done before).scan_eq takes]
      exact .done before
    · by_cases none : p.ends ⟨before, c :: rest⟩ = []
      · have later := ih rest.length (by simp [← long]) (c :: before) rest rfl
        have run := Scans.pass none later
        rwa [run.scan_eq takes]
      · obtain ⟨taken, rest, whole, some, finds⟩ := takes.exists_finds none
        have shorter : rest.length < n := by
          have := List.length_pos_iff.mpr some
          have := congrArg List.length whole
          simp only [List.length_append] at this
          omega
        have later := ih rest.length shorter (taken.reverse ++ before) rest rfl
        have run := Scans.take some finds later
        rw [whole]
        rwa [run.scan_eq takes]

theorem Scans.passes {gap : List Char}
    (nothing : ∀ passed c rest, gap = passed ++ c :: rest →
      p.ends ⟨passed.reverse ++ before, c :: rest ++ after⟩ = [])
    (later : p.Scans (gap.reverse ++ before) after found) :
    p.Scans before (gap ++ after) found := by
  induction gap generalizing before with
  | nil => exact later
  | cons c gap ih =>
    refine .pass (nothing [] c gap rfl) (ih ?_ (by simpa using later))
    intro passed d rest whole
    have inside := nothing (c :: passed) d rest (congrArg (c :: ·) whole)
    simpa using inside

theorem Scans.finds (run : p.Scans before after found) (listed : m ∈ found) :
    ∃ rest, m.start.after = m.text ++ rest ∧ p.Finds m.start.before m.text rest := by
  induction run with
  | done => cases listed
  | pass none later ih => exact ih listed
  | take some finds later ih =>
    rcases List.mem_cons.mp listed with rfl | among
    · exact ⟨_, rfl, finds⟩
    · exact ih among

theorem Scans.whole (run : p.Scans before after found) (listed : m ∈ found) :
    ∃ passed, m.start.before = passed.reverse ++ before ∧ after = passed ++ m.start.after := by
  induction run with
  | done => cases listed
  | @pass before c rest found none later ih =>
    obtain ⟨passed, place, whole⟩ := ih listed
    exact ⟨c :: passed, by simp [place], by rw [whole, List.cons_append]⟩
  | @take before taken after found some finds later ih =>
    rcases List.mem_cons.mp listed with rfl | among
    · exact ⟨[], rfl, rfl⟩
    · obtain ⟨passed, place, whole⟩ := ih among
      exact ⟨taken ++ passed, by simp [place], by rw [List.append_assoc, ← whole]⟩

/-- Where the pattern matches, a match that is found begins or goes on. -/
theorem Scans.exists_over (run : p.Scans before after found) (whole : after = passed ++ rest)
    (some : p.ends ⟨passed.reverse ++ before, rest⟩ ≠ []) (takes : p.TakesSome) :
    ∃ m ∈ found, ∃ inner more left, m.text = inner ++ more ∧ more ≠ [] ∧ rest = more ++ left ∧
      inner.reverse ++ m.start.before = passed.reverse ++ before := by
  induction run generalizing passed with
  | done before =>
    obtain ⟨rfl, rfl⟩ := List.append_eq_nil_iff.mp whole.symm
    obtain ⟨taken, rest, nothing, spans⟩ := ends_ne_nil.mp some
    obtain ⟨rfl, rfl⟩ := List.append_eq_nil_iff.mp nothing.symm
    exact absurd spans (takes before [])
  | @pass before c after found none later ih =>
    cases passed with
    | nil =>
      obtain rfl : c :: after = rest := whole
      exact absurd none some
    | cons d passed =>
      obtain ⟨rfl, rfl⟩ := List.cons.inj whole
      simpa using ih rfl (by simpa using some)
  | @take before taken after found proper finds later ih =>
    rcases List.append_eq_append_iff.mp whole with ⟨between, rfl, rfl⟩ | ⟨more, rfl, rfl⟩
    · obtain ⟨m, among, held⟩ := ih rfl (by simpa using some)
      exact ⟨m, List.mem_cons_of_mem _ among, by simpa using held⟩
    · cases more with
      | nil =>
        have rest : after = [] ++ after := rfl
        obtain ⟨m, among, held⟩ := ih rest (by simpa using some)
        exact ⟨m, List.mem_cons_of_mem _ among, by simpa using held⟩
      | cons d more =>
        exact ⟨_, List.mem_cons_self, passed, d :: more, after, rfl, by simp, rfl, rfl⟩

theorem Scans.apart (run : p.Scans before after found) (hm : m ∈ found) (hn : n ∈ found) :
    m = n ∨ m.stop ≤ n.start.before.length ∨ n.stop ≤ m.start.before.length := by
  induction run with
  | done => cases hm
  | pass none later ih => exact ih hm hn
  | @take before taken after found some finds later ih =>
    have behind {n : Match} (among : n ∈ found) :
        before.length + taken.length ≤ n.start.before.length := by
      obtain ⟨passed, place, -⟩ := later.whole among
      simp only [place, List.length_append, List.length_reverse]
      omega
    rcases List.mem_cons.mp hm with rfl | hm <;> rcases List.mem_cons.mp hn with rfl | hn
    · exact .inl rfl
    · exact .inr (.inl (behind hn))
    · exact .inr (.inr (behind hm))
    · exact ih hm hn

end Pattern

end PatchReview
