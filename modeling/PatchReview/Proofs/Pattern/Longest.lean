import PatchReview.Proofs.Pattern.Spans

/-!
# Longest matches first

A pattern that takes as many characters of a set as possible, between parts whose lengths are
fixed, prefers longer matches. The match that a scan finds for such a pattern is the longest one
at its place (`LongestFirst.finds`).
-/

namespace PatchReview.Pattern

variable {p first second : Pattern} {before taken after : List Char}

/-- Of two matches at a place the longer one is preferred. -/
def LongestFirst (p : Pattern) : Prop :=
  ∀ here, (p.ends here).Pairwise fun one other => one.after.length ≤ other.after.length

def TakesExactly (p : Pattern) (length : Nat) : Prop :=
  ∀ before taken after, p.Spans before taken after → taken.length = length

theorem TakesExactly.length_after (h : p.TakesExactly n) (reached : there ∈ p.ends here) :
    n + there.after.length = here.after.length := by
  obtain ⟨taken, starts, spans⟩ := exists_spans reached
  rw [starts, List.length_append, h _ _ _ spans]

theorem length_ends_letters (word : List Char) (here : Cursor) :
    ((letters word empty).ends here).length ≤ 1 := by
  induction word generalizing here with
  | nil => simp [letters, ends]
  | cons c word ih =>
    simp only [letters, List.foldr_cons, ends] at ih ⊢
    obtain ⟨before, after⟩ := here
    cases after with
    | nil => simp
    | cons d rest =>
      dsimp only
      split
      · simpa using ih ⟨d :: before, rest⟩
      · simp

-- ---------------------------------------------------------------------------
-- Which patterns prefer longer matches
-- ---------------------------------------------------------------------------

theorem longestFirst_many (set : CharSet) : (many set).LongestFirst := by
  rintro ⟨before, after⟩
  simp only [ends]
  induction after generalizing before with
  | nil => simp [manyEnds]
  | cons c rest ih =>
    rw [manyEnds]
    split
    · refine List.pairwise_append.mpr ⟨ih (c :: before), by simp, fun there further here last => ?_⟩
      obtain rfl := List.mem_singleton.mp last
      obtain ⟨taken, goesOn, -⟩ := mem_manyEnds.mp further
      simp only [goesOn, List.length_cons, List.length_append]
      omega
    · simp

/-- What comes after a greedy part and is of one length leaves the order as it
is. -/
theorem LongestFirst.seq (hf : first.LongestFirst) (hs : second.TakesExactly n) :
    (seq first second).LongestFirst := by
  intro here
  rw [ends, List.pairwise_flatMap]
  refine ⟨fun there _ => ?_, (hf here).imp fun longer one reached other reachedToo => ?_⟩
  · refine List.pairwise_of_forall_mem_list fun one reached other reachedToo => ?_
    have := hs.length_after reached
    have := hs.length_after reachedToo
    omega
  · have := hs.length_after reached
    have := hs.length_after reachedToo
    omega

theorem LongestFirst.literal_seq (hs : second.LongestFirst) (word : String) :
    (Pattern.seq (literal word) second).LongestFirst := by
  intro here
  rw [ends]
  have single := length_ends_letters word.toList here
  cases reached : (literal word).ends here with
  | nil => simp
  | cons there others =>
    rw [← literal, reached, List.length_cons] at single
    obtain rfl : others = [] := List.length_eq_zero_iff.mp (by omega)
    simpa using hs there

-- ---------------------------------------------------------------------------
-- What a scan finds
-- ---------------------------------------------------------------------------

theorem Finds.exists_head (h : p.Finds before taken after) :
    ∃ there others, p.ends ⟨before, taken ++ after⟩ = there :: others ∧
      there.after.length = after.length := by
  cases reached : p.ends ⟨before, taken ++ after⟩ with
  | nil =>
    have none := matchesAt_eq_nil.mpr reached
    rw [h] at none
    cases none
  | cons there others =>
    refine ⟨there, others, rfl, ?_⟩
    obtain ⟨first, starts, -⟩ := exists_spans (reached ▸ List.mem_cons_self)
    have whole : taken ++ after = first ++ there.after := starts
    suffices taken = first by
      subst this
      rw [List.append_cancel_left whole]
    have length : p.matchLength? ⟨before, taken ++ after⟩ = some first.length := by
      have total := congrArg List.length whole
      simp only [List.length_append] at total
      simp only [matchLength?, run_eq_findSome, reached, List.findSome?_cons, List.length_append,
        Option.some.injEq]
      omega
    rw [Finds, matchesAt, length] at h
    split at h
    · cases h
    · next nothing =>
      obtain ⟨same, -⟩ := List.cons.inj h
      rw [List.length_eq_zero_iff.mp (Option.some.inj nothing)]
      exact (congrArg Match.text same).symm
    · next n _ proper =>
      obtain ⟨same, -⟩ := List.cons.inj h
      have text := congrArg Match.text same
      dsimp only at text
      rw [← Option.some.inj proper, whole, List.take_left] at text
      exact text.symm

theorem LongestFirst.length_le (h : p.LongestFirst) (finds : p.Finds before taken after)
    (spans : p.Spans before other rest) (same : taken ++ after = other ++ rest) :
    other.length ≤ taken.length := by
  obtain ⟨there, others, reached, length⟩ := finds.exists_head
  have among : ⟨other.reverse ++ before, rest⟩ ∈ there :: others := by
    rw [← reached, same]
    exact spans
  have sorted := h ⟨before, taken ++ after⟩
  have total := congrArg List.length same
  rw [reached, List.pairwise_cons] at sorted
  simp only [List.length_append] at total
  rcases List.mem_cons.mp among with rfl | later
  · simp only at length
    omega
  · have := sorted.1 _ later
    simp only at this
    omega

theorem LongestFirst.finds (h : p.LongestFirst) (takes : p.TakesSome)
    (spans : p.Spans before taken after)
    (longest : ∀ other rest, taken ++ after = other ++ rest → p.Spans before other rest →
      other.length ≤ taken.length) : p.Finds before taken after := by
  have some : p.ends ⟨before, taken ++ after⟩ ≠ [] := ends_ne_nil.mpr ⟨taken, after, rfl, spans⟩
  obtain ⟨other, rest, same, -, finds⟩ := takes.exists_finds some
  have short := longest other rest same finds.spans
  have long := h.length_le finds spans same.symm
  obtain ⟨rfl, rfl⟩ := List.append_inj same (by omega)
  exact finds

end PatchReview.Pattern
