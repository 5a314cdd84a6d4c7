import PatchReview.Proofs.Pattern.Scan
import PatchReview.Proofs.Pattern.Taken
import PatchReview.Proofs.Text.LowerCase

/-!
# Matches in longer texts

Text that is added at the end of a text may take part in a match, undo one that
looks ahead, or be matched by itself. It does neither of the first two to a
pattern that is settled: at every place either the pattern sees nothing of the
addition, or it matches neither there nor later in the text as it was. The
matches of a settled pattern stay the first ones (`findAll_prefix`). A pattern is
settled if it comes to the addition no further than to a character that it
avoids, or if it ends in a sign that it avoids up to there (`isSettled_of_settles`).
A pattern without negative lookahead keeps at least one match (`findAll_ne_nil`).
-/

namespace PatchReview

def Cursor.extend (more : List Char) (here : Cursor) : Cursor := ⟨here.before, here.after ++ more⟩

def Match.extend (more : List Char) (m : Match) : Match := ⟨m.start.extend more, m.text⟩

namespace Pattern

variable {p : Pattern} {more : List Char}

-- ---------------------------------------------------------------------------
-- Patterns that avoid a character
-- ---------------------------------------------------------------------------

/-- Whether a pattern neither takes a character nor tells it from the end. -/
def avoids (stop : Char) : Pattern → Bool
  | letter c => !sameLetter c stop
  | one set | many set => !set.has stop
  | seq first second | alt first second => first.avoids stop && second.avoids stop
  | ahead p | notAhead p => p.avoids stop
  | wordEdge => !Text.isWord stop
  | empty => true

theorem manyEnds_append_stop {set : CharSet} (h : set.has stop = false) (before after : List Char) :
    manyEnds set before (after ++ stop :: more) =
      (manyEnds set before after).map (.extend (stop :: more)) := by
  induction after generalizing before with
  | nil => simp [manyEnds, h, Cursor.extend]
  | cons c rest ih =>
    simp only [List.cons_append, manyEnds]
    split <;> simp [ih, Cursor.extend]

theorem atWordEdge_extend (apart : ∀ c ∈ more.head?, Text.isWord c = false) (here : Cursor) :
    atWordEdge (here.extend more) = atWordEdge here := by
  obtain ⟨before, _ | ⟨d, rest⟩⟩ := here
  · cases more with
    | nil => rfl
    | cons c more => simp [atWordEdge, Cursor.extend, apart c rfl]
  · rfl

theorem atWordEdge_append_stop (h : Text.isWord stop = false) (before after : List Char) :
    atWordEdge ⟨before, after ++ stop :: more⟩ = atWordEdge ⟨before, after⟩ :=
  atWordEdge_extend (by simpa using h) ⟨before, after⟩

/-- From a place before a character that it avoids, a pattern sees nothing of
what comes after that. -/
theorem ends_append_stop (h : p.avoids stop = true) (before after : List Char) :
    p.ends ⟨before, after ++ stop :: more⟩ =
      (p.ends ⟨before, after⟩).map (.extend (stop :: more)) := by
  induction p generalizing before after with
  | empty => rfl
  | letter c =>
    simp only [avoids, Bool.not_eq_true'] at h
    cases after with
    | nil => simp [ends, h]
    | cons d rest => simp only [List.cons_append, ends]; split <;> rfl
  | one set =>
    simp only [avoids, Bool.not_eq_true'] at h
    cases after with
    | nil => simp [ends, h]
    | cons d rest => simp only [List.cons_append, ends]; split <;> rfl
  | seq first second ihf ihs =>
    simp only [avoids, Bool.and_eq_true] at h
    simp only [ends, ihf h.1, List.flatMap_map, List.map_flatMap]
    exact congrArg List.flatten (List.map_congr_left fun there _ => ihs h.2 there.before there.after)
  | alt first second ihf ihs =>
    simp only [avoids, Bool.and_eq_true] at h
    simp only [ends, ihf h.1, ihs h.2, List.map_append]
  | many set =>
    simp only [avoids, Bool.not_eq_true'] at h
    exact manyEnds_append_stop h before after
  | ahead p ih =>
    simp only [ends, ih h, List.isEmpty_map]
    split <;> rfl
  | notAhead p ih =>
    simp only [ends, ih h, List.isEmpty_map]
    split <;> rfl
  | wordEdge =>
    simp only [avoids, Bool.not_eq_true'] at h
    simp only [ends, atWordEdge_append_stop h]
    split <;> rfl

-- ---------------------------------------------------------------------------
-- Settled patterns
-- ---------------------------------------------------------------------------

def KeepsAt (p : Pattern) (more : List Char) (here : Cursor) : Prop :=
  p.ends (here.extend more) = (p.ends here).map (.extend more)

/-- An addition changes nothing as long as there is something to match. -/
def IsSettled (p : Pattern) (more : List Char) : Prop := ∀ here, p.KeepsAt more here ∨ p.Barren here

theorem le_of_end
    (h : ∃ there ∈ p.ends here, length = here.after.length - there.after.length) :
    length ≤ here.after.length := by
  obtain ⟨there, -, rfl⟩ := h
  exact Nat.sub_le _ _

theorem KeepsAt.matchLength? (h : p.KeepsAt more here) :
    p.matchLength? (here.extend more) = p.matchLength? here := by
  unfold KeepsAt at h
  simp only [Pattern.matchLength?, run_eq_findSome, h, List.findSome?_map]
  congr 1
  funext there
  simp [Cursor.extend, Nat.add_sub_add_right]

theorem KeepsAt.properLength? (h : p.KeepsAt more here) :
    p.properLength? (here.extend more) = p.properLength? here := by
  unfold KeepsAt at h
  simp only [Pattern.properLength?, run_eq_findSome, h, List.findSome?_map]
  congr 1
  funext there
  simp [Cursor.extend, Nat.add_sub_add_right]

theorem KeepsAt.matchesAt (h : p.KeepsAt more here) :
    p.matchesAt (here.extend more) = (p.matchesAt here).map (.extend more) := by
  simp only [Pattern.matchesAt, h.matchLength?, h.properLength?]
  cases found : p.matchLength? here with
  | none => rfl
  | some length =>
    have inside := le_of_end (exists_end_of_matchLength? found)
    cases length with
    | zero =>
      cases proper : p.properLength? here with
      | none => rfl
      | some length =>
        have inside := le_of_end (exists_end_of_properLength? proper)
        simp [Match.extend, Cursor.extend, List.take_append_of_le_length inside]
    | succ length =>
      simp [Match.extend, Cursor.extend, List.take_append_of_le_length inside]

theorem covered_extend (found : List Match) :
    covered (found.map (.extend more)) = covered found := by
  simp [covered, List.foldr_map, Match.extend]

theorem scan_prefix (settled : p.IsSettled more) (skip : Nat) (before after : List Char) :
    (p.scan skip before after).map (.extend more) <+: p.scan skip before (after ++ more) := by
  induction after generalizing skip before with
  | nil =>
    cases skip with
    | succ skip => exact List.nil_prefix
    | zero =>
      obtain keeps | barren := settled ⟨before, []⟩
      · simp only [scan, if_true, ← keeps.matchesAt]
        exact matchesAt_prefix_scan p before more
      · rw [scan_eq_nil.mpr barren]
        exact List.nil_prefix
  | cons c rest ih =>
    cases skip with
    | succ skip => exact ih skip (c :: before)
    | zero =>
      -- Where the addition is seen there is no later match either, so none is lost.
      obtain keeps | barren := settled ⟨before, c :: rest⟩
      · have first : p.matchesAt ⟨before, c :: (rest ++ more)⟩ = _ := keeps.matchesAt
        simp only [List.cons_append, scan, first, covered_extend, List.map_append]
        exact List.prefix_append_right_inj _ |>.mpr (ih _ _)
      · rw [scan_eq_nil.mpr barren]
        exact List.nil_prefix

/-- The matches of a settled pattern are the first ones in the longer text. -/
theorem findAll_prefix (settled : p.IsSettled more) (text : List Char) :
    (p.findAll text).map (.extend more) <+: p.findAll (text ++ more) :=
  scan_prefix settled 0 [] text

theorem isSettled_of_avoids (h : p.avoids stop = true) : p.IsSettled (stop :: more) :=
  fun here => .inl (ends_append_stop h here.before here.after)

-- ---------------------------------------------------------------------------
-- Patterns that end in a sign
-- ---------------------------------------------------------------------------

def closesWith (stops : List Char) : Pattern → Bool
  | letter c => Text.isSign c && stops.contains c
  | one (.oneOf members) => members.all stops.contains
  | seq first second =>
    (stops.all first.avoids && second.closesWith stops) ||
      (first.closesWith stops && second == empty)
  | _ => false

theorem sameLetter_iff (h : Text.isSign c = true) : sameLetter c d = true ↔ d = c := by
  rw [sameLetter, (Text.fold_eq_iff h).mpr rfl, beq_iff_eq, eq_comm, Text.fold_eq_iff h]

/-- Up to a stop nothing matches, and what matches from there on is settled by
the text up to the first one. -/
structure IsClosed (p : Pattern) (stops : List Char) : Prop where
  none : ∀ before after, (∀ c ∈ after, c ∉ stops) → p.ends ⟨before, after⟩ = []
  some : ∀ before after stop rest, (∀ c ∈ after, c ∉ stops) → stop ∈ stops →
    p.ends ⟨before, after ++ stop :: rest⟩ =
      (p.ends ⟨before, after ++ [stop]⟩).map (.extend rest)

theorem isClosed_seq {first second : Pattern} (avoids : ∀ stop ∈ stops, first.avoids stop = true)
    (closed : second.IsClosed stops) : (seq first second).IsClosed stops where
  none before after free := by
    refine List.flatMap_eq_nil_iff.mpr fun there reached => ?_
    obtain ⟨taken, rfl, -⟩ := exists_takes reached
    exact closed.none _ _ fun c hc => free c (List.mem_append_right _ hc)
  some before after stop rest free isStop := by
    simp only [ends, ends_append_stop (avoids stop isStop), List.flatMap_map, List.map_flatMap]
    refine congrArg List.flatten (List.map_congr_left fun there reached => ?_)
    obtain ⟨taken, rfl, -⟩ := exists_takes reached
    exact closed.some _ _ stop rest (fun c hc => free c (List.mem_append_right _ hc)) isStop

theorem isClosed_of_single (takes : Char → Bool) (none : ∀ before, p.ends ⟨before, []⟩ = [])
    (some : ∀ before d rest,
      p.ends ⟨before, d :: rest⟩ = if takes d then [⟨d :: before, rest⟩] else [])
    (isStop : ∀ d, takes d = true → d ∈ stops) : p.IsClosed stops where
  none before after free := by
    cases after with
    | nil => exact none before
    | cons d rest =>
      rw [some, if_neg fun taken => free d List.mem_cons_self (isStop d taken)]
  some before after stop rest free _ := by
    cases after with
    | nil =>
      simp only [List.nil_append, some]
      split <;> rfl
    | cons d others =>
      have apart : ¬ takes d = true := fun taken => free d List.mem_cons_self (isStop d taken)
      rw [List.cons_append, List.cons_append, some, some, if_neg apart, if_neg apart, List.map_nil]

theorem isClosed_of_closesWith (h : p.closesWith stops = true) : p.IsClosed stops := by
  induction p with
  | letter c =>
    simp only [closesWith, Bool.and_eq_true, List.contains_iff_mem] at h
    refine isClosed_of_single (sameLetter c) (fun _ => rfl) (fun _ _ _ => rfl) fun d same => ?_
    obtain rfl := (sameLetter_iff h.1).mp same
    exact h.2
  | one set =>
    cases set with
    | oneOf members =>
      simp only [closesWith, List.all_eq_true, List.contains_iff_mem] at h
      refine isClosed_of_single (CharSet.oneOf members).has (fun _ => rfl) (fun _ _ _ => rfl)
        fun d inSet => ?_
      exact h d (List.contains_iff_mem.mp inSet)
    | noneOf | letters | blank | word | union => cases h
  | seq first second ihf ihs =>
    simp only [closesWith, Bool.or_eq_true, Bool.and_eq_true, List.all_eq_true, beq_iff_eq] at h
    obtain ⟨avoids, closes⟩ | ⟨closes, rfl⟩ := h
    · exact isClosed_seq avoids (ihs closes)
    · have same (here : Cursor) : (seq first empty).ends here = first.ends here := by
        simp [ends]
      constructor
      · simpa only [same] using (ihf closes).none
      · simpa only [same] using (ihf closes).some
  | empty | alt | many | ahead | notAhead | wordEdge => cases h

theorem Cursor.extend_extend (here : Cursor) (first second : List Char) :
    (here.extend first).extend second = here.extend (first ++ second) := by
  simp [Cursor.extend]

theorem IsClosed.keepsAt (closed : p.IsClosed stops) (stopped : ∃ c ∈ after, c ∈ stops)
    (before : List Char) : p.KeepsAt more ⟨before, after⟩ := by
  have first : (after.find? (· ∈ stops)).isSome := by simpa using stopped
  obtain ⟨stop, found⟩ := Option.isSome_iff_exists.mp first
  obtain ⟨isStop, free, rest, rfl, isFirst⟩ := List.find?_eq_some_iff_append.mp found
  simp only [decide_eq_true_eq, Bool.not_eq_true', decide_eq_false_iff_not] at isStop isFirst
  rw [KeepsAt, Cursor.extend, closed.some before free stop rest isFirst isStop, List.append_assoc,
    List.cons_append, closed.some before free stop _ isFirst isStop, List.map_map]
  refine List.map_congr_left fun there _ => ?_
  exact (Cursor.extend_extend there rest more).symm

theorem IsClosed.isSettled (closed : p.IsClosed stops) : p.IsSettled more := by
  rintro ⟨before, after⟩
  by_cases stopped : ∃ c ∈ after, c ∈ stops
  · exact .inl (closed.keepsAt stopped before)
  · right
    rintro passed rest rfl
    refine closed.none _ _ fun c hc isStop => stopped ⟨c, ?_, isStop⟩
    exact List.mem_append_right _ hc

/-- A pattern may begin with one character of any kind, a stop included. -/
theorem IsClosed.isSettled_one (closed : p.IsClosed stops) (set : CharSet) :
    (seq (one set) p).IsSettled more := by
  have nothing (before after : List Char) (free : ∀ c ∈ after.tail, c ∉ stops) :
      (seq (one set) p).ends ⟨before, after⟩ = [] := by
    cases after with
    | nil => rfl
    | cons d rest =>
      simp only [ends]
      split
      · simpa using closed.none (d :: before) rest free
      · rfl
  rintro ⟨before, _ | ⟨d, rest⟩⟩
  · right
    rintro passed rest whole
    obtain ⟨-, rfl⟩ := List.append_eq_nil_iff.mp whole.symm
    exact nothing _ _ (by simp)
  · by_cases stopped : ∃ c ∈ rest, c ∈ stops
    · left
      have keeps : p.KeepsAt more ⟨d :: before, rest⟩ := closed.keepsAt stopped _
      simp only [KeepsAt, Cursor.extend] at keeps
      simp only [KeepsAt, Cursor.extend, List.cons_append, ends]
      split
      · simpa using keeps
      · rfl
    · right
      rintro passed left whole
      refine nothing _ _ fun c hc isStop => stopped ⟨c, ?_, isStop⟩
      cases passed with
      | nil =>
        obtain rfl : d :: rest = left := whole
        exact hc
      | cons e passed =>
        obtain ⟨rfl, rfl⟩ := List.cons.inj whole
        exact List.mem_append_right _ (List.mem_of_mem_tail hc)

/-- Whether a pattern is settled for what comes on a line of its own: it avoids
line feeds, or it ends like a tag or like a quotation. -/
def settles : Pattern → Bool
  | seq (one set) second =>
    (seq (one set) second).avoids '\n' || (seq (one set) second).closesWith ['>'] ||
      second.closesWith ['"', '\'']
  | p => p.avoids '\n' || p.closesWith ['>']

theorem isSettled_of_settles (h : p.settles = true) : p.IsSettled ('\n' :: more) := by
  unfold settles at h
  split at h
  · simp only [Bool.or_eq_true] at h
    obtain (avoids | closes) | closes := h
    · exact isSettled_of_avoids avoids
    · exact (isClosed_of_closesWith closes).isSettled
    · exact (isClosed_of_closesWith closes).isSettled_one _
  · simp only [Bool.or_eq_true] at h
    obtain avoids | closes := h
    · exact isSettled_of_avoids avoids
    · exact (isClosed_of_closesWith closes).isSettled

-- ---------------------------------------------------------------------------
-- Patterns that ask for nothing to be absent
-- ---------------------------------------------------------------------------

def isPositive : Pattern → Bool
  | notAhead _ => false
  | seq first second | alt first second => first.isPositive && second.isPositive
  | ahead p => p.isPositive
  | empty | letter _ | one _ | many _ | wordEdge => true

/-- What matches stays a match in a longer text, if no word goes on in the addition. -/
theorem extend_mem_ends (positive : p.isPositive = true)
    (apart : ∀ c ∈ more.head?, Text.isWord c = false) (h : there ∈ p.ends here) :
    there.extend more ∈ p.ends (here.extend more) := by
  induction p generalizing here there with
  | empty => simp_all [ends]
  | letter c =>
    obtain ⟨d, starts, past, same⟩ := mem_ends_letter.mp h
    exact mem_ends_letter.mpr ⟨d, congrArg (· ++ more) starts, past, same⟩
  | one set =>
    obtain ⟨d, starts, past, inSet⟩ := mem_ends_one.mp h
    exact mem_ends_one.mpr ⟨d, congrArg (· ++ more) starts, past, inSet⟩
  | seq first second ihf ihs =>
    simp only [isPositive, Bool.and_eq_true] at positive
    obtain ⟨between, reaches, goesOn⟩ := List.mem_flatMap.mp h
    exact List.mem_flatMap.mpr ⟨_, ihf positive.1 reaches, ihs positive.2 goesOn⟩
  | alt first second ihf ihs =>
    simp only [isPositive, Bool.and_eq_true] at positive
    obtain left | right := List.mem_append.mp h
    · exact List.mem_append_left _ (ihf positive.1 left)
    · exact List.mem_append_right _ (ihs positive.2 right)
  | many set =>
    obtain ⟨taken, starts, past, all⟩ := mem_manyEnds.mp h
    exact mem_manyEnds.mpr ⟨taken, by simp [Cursor.extend, starts], past, all⟩
  | ahead p ih =>
    obtain ⟨rfl, sees⟩ := mem_ends_ahead.mp h
    obtain ⟨seen, reached⟩ := List.exists_mem_of_ne_nil _ sees
    exact mem_ends_ahead.mpr ⟨rfl, List.ne_nil_of_mem (ih positive reached)⟩
  | notAhead p => cases positive
  | wordEdge =>
    obtain ⟨rfl, edge⟩ := mem_ends_wordEdge.mp h
    exact mem_ends_wordEdge.mpr ⟨rfl, (atWordEdge_extend apart there).trans edge⟩

theorem findAll_ne_nil (positive : p.isPositive = true)
    (apart : ∀ c ∈ more.head?, Text.isWord c = false) (h : p.findAll text ≠ []) :
    p.findAll (text ++ more) ≠ [] := by
  rw [findAll, Ne, scan_eq_nil] at h ⊢
  intro barren
  refine h fun passed rest whole => List.eq_nil_iff_forall_not_mem.mpr fun there reached => ?_
  obtain rfl : text = passed ++ rest := whole
  have still := extend_mem_ends positive apart reached
  rw [Cursor.extend, barren passed (rest ++ more) (List.append_assoc ..)] at still
  cases still

end Pattern

end PatchReview
