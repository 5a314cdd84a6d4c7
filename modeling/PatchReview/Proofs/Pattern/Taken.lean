import PatchReview.Pattern.Scan

/-!
# What matches consist of

Where each kind of pattern leads to is said once (`mem_ends_letter` and what
follows it). A pattern tells beforehand which characters its matches may hold,
which they may end in, and whether they may be empty (`exists_takes`). That is so
of all matches in a text (`takes_of_mem_findAll`).
-/

namespace PatchReview.Pattern

-- ---------------------------------------------------------------------------
-- Where the parts of a pattern lead
-- ---------------------------------------------------------------------------

section

variable {p : Pattern} {set : CharSet} {here there : Cursor}

theorem mem_single {takes : Char → Bool} {before after : List Char} :
    (there ∈ match after with
      | d :: rest => if takes d then [(⟨d :: before, rest⟩ : Cursor)] else []
      | [] => []) ↔
      ∃ d, after = d :: there.after ∧ there.before = d :: before ∧ takes d = true := by
  obtain ⟨past, rest⟩ := there
  constructor
  · intro h
    cases after with
    | nil => cases h
    | cons d after =>
      dsimp only at h
      split at h
      · next taken =>
        cases List.mem_singleton.mp h
        exact ⟨d, rfl, rfl, taken⟩
      · cases h
  · rintro ⟨d, rfl, rfl, taken⟩
    simp [taken]

theorem mem_ends_letter :
    there ∈ (letter c).ends here ↔
      ∃ d, here.after = d :: there.after ∧ there.before = d :: here.before ∧
        sameLetter c d = true :=
  mem_single

theorem mem_ends_one :
    there ∈ (one set).ends here ↔
      ∃ d, here.after = d :: there.after ∧ there.before = d :: here.before ∧ set.has d = true :=
  mem_single

theorem mem_manyEnds {before after : List Char} :
    there ∈ manyEnds set before after ↔
      ∃ taken, after = taken ++ there.after ∧ there.before = taken.reverse ++ before ∧
        ∀ c ∈ taken, set.has c = true := by
  obtain ⟨thereBefore, rest⟩ := there
  constructor
  · intro h
    induction after generalizing before with
    | nil =>
      cases List.mem_singleton.mp h
      exact ⟨[], rfl, rfl, nofun⟩
    | cons c after ih =>
      rw [manyEnds] at h
      split at h
      · next inSet =>
        obtain further | here := List.mem_append.mp h
        · obtain ⟨taken, rfl, rfl, all⟩ := ih further
          exact ⟨c :: taken, rfl, by simp, List.forall_mem_cons.mpr ⟨inSet, all⟩⟩
        · cases List.mem_singleton.mp here
          exact ⟨[], rfl, rfl, nofun⟩
      · cases List.mem_singleton.mp h
        exact ⟨[], rfl, rfl, nofun⟩
  · rintro ⟨taken, rfl, rfl, all⟩
    induction taken generalizing before with
    | nil =>
      cases rest with
      | nil => simp [manyEnds]
      | cons d rest =>
        rw [List.nil_append, manyEnds]
        split <;> simp
    | cons c taken ih =>
      rw [List.forall_mem_cons] at all
      simpa [manyEnds, all.1] using .inl (ih all.2)

theorem mem_ends_ahead : there ∈ (ahead p).ends here ↔ there = here ∧ p.ends here ≠ [] := by
  rw [ends]
  split <;> simp_all

theorem mem_ends_notAhead : there ∈ (notAhead p).ends here ↔ there = here ∧ p.ends here = [] := by
  rw [ends]
  split <;> simp_all

theorem mem_ends_wordEdge :
    there ∈ wordEdge.ends here ↔ there = here ∧ atWordEdge here = true := by
  rw [ends]
  split <;> simp_all

end

-- ---------------------------------------------------------------------------
-- Texts that matches allow for
-- ---------------------------------------------------------------------------

/-- Whether a match may hold a character. What is looked at without being taken
does not count. -/
def mayHold (c : Char) : Pattern → Bool
  | letter l => sameLetter l c
  | one set | many set => set.has c
  | seq first second | alt first second => first.mayHold c || second.mayHold c
  | empty | ahead _ | notAhead _ | wordEdge => false

def mayBeEmpty : Pattern → Bool
  | letter _ | one _ => false
  | seq first second => first.mayBeEmpty && second.mayBeEmpty
  | alt first second => first.mayBeEmpty || second.mayBeEmpty
  | empty | many _ | ahead _ | notAhead _ | wordEdge => true

def mayEndIn (c : Char) : Pattern → Bool
  | letter l => sameLetter l c
  | one set | many set => set.has c
  | seq first second => second.mayEndIn c || (second.mayBeEmpty && first.mayEndIn c)
  | alt first second => first.mayEndIn c || second.mayEndIn c
  | empty | ahead _ | notAhead _ | wordEdge => false

structure Takes (p : Pattern) (taken : List Char) : Prop where
  holds : ∀ c ∈ taken, p.mayHold c = true
  ends : ∀ c ∈ taken.getLast?, p.mayEndIn c = true
  empty : taken = [] → p.mayBeEmpty = true

theorem Takes.nil {p : Pattern} (h : p.mayBeEmpty = true) : Takes p [] := ⟨nofun, nofun, fun _ => h⟩

theorem Takes.singleton {p : Pattern} (holds : p.mayHold c = true) (ends : p.mayEndIn c = true) :
    Takes p [c] := by
  refine ⟨fun d hd => ?_, fun d hd => ?_, nofun⟩
  · rwa [List.mem_singleton.mp hd]
  · cases hd
    exact ends

theorem Takes.append {first second : Pattern} (hf : Takes first taken) (hs : Takes second others) :
    Takes (seq first second) (taken ++ others) := by
  refine ⟨fun c hc => ?_, fun c hc => ?_, fun none => ?_⟩
  · rw [mayHold, Bool.or_eq_true]
    obtain early | late := List.mem_append.mp hc
    · exact .inl (hf.holds c early)
    · exact .inr (hs.holds c late)
  · rw [mayEndIn, Bool.or_eq_true, Bool.and_eq_true]
    cases others with
    | nil =>
      rw [List.append_nil] at hc
      exact .inr ⟨hs.empty rfl, hf.ends c hc⟩
    | cons d rest =>
      rw [List.getLast?_append, Option.or_of_isSome (by simp)] at hc
      exact .inl (hs.ends c hc)
  · rw [List.append_eq_nil_iff] at none
    rw [mayBeEmpty, hf.empty none.1, hs.empty none.2]
    rfl

theorem Takes.left {first : Pattern} (h : Takes first taken) (second : Pattern) :
    Takes (alt first second) taken where
  holds c hc := by rw [mayHold, h.holds c hc, Bool.true_or]
  ends c hc := by rw [mayEndIn, h.ends c hc, Bool.true_or]
  empty none := by rw [mayBeEmpty, h.empty none, Bool.true_or]

theorem Takes.right {second : Pattern} (h : Takes second taken) (first : Pattern) :
    Takes (alt first second) taken where
  holds c hc := by rw [mayHold, h.holds c hc, Bool.or_true]
  ends c hc := by rw [mayEndIn, h.ends c hc, Bool.or_true]
  empty none := by rw [mayBeEmpty, h.empty none, Bool.or_true]

/-- A match goes over a text to where it ends, and takes what the pattern allows
for. -/
theorem exists_takes {p : Pattern} (h : there ∈ p.ends here) :
    ∃ taken, here.after = taken ++ there.after ∧ there.before = taken.reverse ++ here.before ∧
      Takes p taken := by
  induction p generalizing here there with
  | empty =>
    obtain rfl := List.mem_singleton.mp h
    exact ⟨[], rfl, rfl, .nil rfl⟩
  | letter c =>
    obtain ⟨d, starts, past, same⟩ := mem_ends_letter.mp h
    exact ⟨[d], starts, past, .singleton same same⟩
  | one set =>
    obtain ⟨d, starts, past, inSet⟩ := mem_ends_one.mp h
    exact ⟨[d], starts, past, .singleton inSet inSet⟩
  | seq first second ihf ihs =>
    obtain ⟨between, reaches, goesOn⟩ := List.mem_flatMap.mp h
    obtain ⟨taken, starts, past, allowed⟩ := ihf reaches
    obtain ⟨others, follows, ends, allowedToo⟩ := ihs goesOn
    exact ⟨taken ++ others, by simp [starts, follows], by simp [ends, past],
      allowed.append allowedToo⟩
  | alt first second ihf ihs =>
    obtain left | right := List.mem_append.mp h
    · obtain ⟨taken, starts, past, allowed⟩ := ihf left
      exact ⟨taken, starts, past, allowed.left second⟩
    · obtain ⟨taken, starts, past, allowed⟩ := ihs right
      exact ⟨taken, starts, past, allowed.right first⟩
  | many set =>
    obtain ⟨taken, starts, past, all⟩ := mem_manyEnds.mp h
    exact ⟨taken, starts, past, all, fun c hc => all c (List.mem_of_getLast? hc), fun _ => rfl⟩
  | ahead p =>
    obtain ⟨rfl, -⟩ := mem_ends_ahead.mp h
    exact ⟨[], rfl, rfl, .nil rfl⟩
  | notAhead p =>
    obtain ⟨rfl, -⟩ := mem_ends_notAhead.mp h
    exact ⟨[], rfl, rfl, .nil rfl⟩
  | wordEdge =>
    obtain ⟨rfl, -⟩ := mem_ends_wordEdge.mp h
    exact ⟨[], rfl, rfl, .nil rfl⟩

theorem exists_past {p : Pattern} (h : there ∈ p.ends here) :
    ∃ taken, here = ⟨here.before, taken ++ there.after⟩ ∧
      there = ⟨taken.reverse ++ here.before, there.after⟩ := by
  obtain ⟨taken, starts, past, -⟩ := exists_takes h
  exact ⟨taken, by rw [← starts], by rw [← past]⟩

-- ---------------------------------------------------------------------------
-- All matches
-- ---------------------------------------------------------------------------

def Reaches (p : Pattern) (m : Match) : Prop :=
  ∃ there ∈ p.ends m.start, m.start.after = m.text ++ there.after

theorem exists_end_of_matchLength? {p : Pattern} (h : p.matchLength? here = some length) :
    ∃ there ∈ p.ends here, length = here.after.length - there.after.length := by
  rw [matchLength?, run_eq_findSome] at h
  obtain ⟨there, reached, found⟩ := List.exists_of_findSome?_eq_some h
  exact ⟨there, reached, (Option.some.inj found).symm⟩

theorem exists_end_of_properLength? {p : Pattern} (h : p.properLength? here = some length) :
    ∃ there ∈ p.ends here, length = here.after.length - there.after.length := by
  rw [properLength?, run_eq_findSome] at h
  obtain ⟨there, reached, found⟩ := List.exists_of_findSome?_eq_some h
  split at found
  · exact ⟨there, reached, (Option.some.inj found).symm⟩
  · cases found

theorem reaches_of_end {p : Pattern}
    (h : ∃ there ∈ p.ends here, length = here.after.length - there.after.length) :
    p.Reaches ⟨here, here.after.take length⟩ := by
  obtain ⟨there, reached, rfl⟩ := h
  obtain ⟨taken, starts, -⟩ := exists_takes reached
  have text : here.after.take (here.after.length - there.after.length) = taken := by
    rw [starts, List.length_append, Nat.add_sub_cancel, List.take_left]
  exact ⟨there, reached, by rw [text, starts]⟩

theorem reaches_of_mem_matchesAt {p : Pattern} (h : m ∈ p.matchesAt here) : p.Reaches m := by
  unfold matchesAt at h
  split at h
  · cases h
  · next found =>
    obtain rfl | proper := List.mem_cons.mp h
    · exact reaches_of_end (exists_end_of_matchLength? found)
    · split at proper
      · cases proper
      · next found =>
        obtain rfl := List.mem_singleton.mp proper
        exact reaches_of_end (exists_end_of_properLength? found)
  · next found =>
    obtain rfl := List.mem_singleton.mp h
    exact reaches_of_end (exists_end_of_matchLength? found)

theorem reaches_of_mem_scan {p : Pattern} (h : m ∈ p.scan skip before after) : p.Reaches m := by
  induction after generalizing skip before with
  | nil =>
    rw [scan] at h
    split at h
    · exact reaches_of_mem_matchesAt h
    · cases h
  | cons c rest ih =>
    cases skip with
    | succ skip => exact ih h
    | zero =>
      obtain first | later := List.mem_append.mp h
      · exact reaches_of_mem_matchesAt first
      · exact ih later

theorem reaches_of_mem_findAll {p : Pattern} (h : m ∈ p.findAll text) : p.Reaches m :=
  reaches_of_mem_scan h

theorem takes_of_mem_findAll {p : Pattern} (h : m ∈ p.findAll text) : Takes p m.text := by
  obtain ⟨there, reached, starts⟩ := reaches_of_mem_findAll h
  obtain ⟨taken, same, -, allowed⟩ := exists_takes reached
  rw [starts] at same
  rwa [List.append_cancel_right same]

end PatchReview.Pattern
