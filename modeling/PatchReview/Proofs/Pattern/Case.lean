import PatchReview.Pattern.Scan
import PatchReview.Proofs.Text.LowerCase

/-!
# Matching without regard to case

Letters match in any case. What stands in a set of single characters matches
as it is, so a pattern whose sets name no letters is caseless: its matches in
a text in lower case are those in the text itself, in lower case
(`findAll_lower`).
-/

namespace PatchReview

def Cursor.lower (here : Cursor) : Cursor :=
  ⟨here.before.map Char.toLower, here.after.map Char.toLower⟩

def Match.lower (m : Match) : Match := ⟨m.start.lower, m.text.map Char.toLower⟩

theorem Cursor.line_lower (here : Cursor) : here.lower.line = here.line := by
  have same : (· == '\n') ∘ Char.toLower = (· == '\n') := by
    funext c
    rw [Function.comp_apply, Bool.eq_iff_iff, beq_iff_eq, beq_iff_eq]
    exact Text.toLower_eq_iff (by decide)
  simp only [line, lower, List.count_eq_countP, List.countP_map, same]

-- ---------------------------------------------------------------------------
-- Single characters
-- ---------------------------------------------------------------------------

theorem sameLetter_toLower (c d : Char) : sameLetter c d.toLower = sameLetter c d := by
  rw [sameLetter, sameLetter, Text.fold_toLower]

theorem standsFor_toLower (c d : Char) : standsFor c d.toLower = standsFor c d := by
  rw [standsFor, standsFor, sameLetter_toLower, Text.fold_toLower]

namespace CharSet

/-- Whether a set names no letters but those that are meant in any case. -/
def isCaseless : CharSet → Bool
  | oneOf members | noneOf members => members.all (!·.isAlpha)
  | letters _ | blank | word => true
  | union first second => first.isCaseless && second.isCaseless

theorem has_toLower {set : CharSet} (h : set.isCaseless = true) (c : Char) :
    set.has c.toLower = set.has c := by
  induction set with
  | oneOf members => exact Text.contains_toLower h c
  | noneOf members => exact congrArg not (Text.contains_toLower h c)
  | letters members => simp only [has, standsFor_toLower]
  | blank => exact Text.isBlank_toLower c
  | word => exact Text.isWord_toLower c
  | union first second ihf ihs =>
    rw [isCaseless, Bool.and_eq_true] at h
    rw [has, has, ihf h.1, ihs h.2]

end CharSet

-- ---------------------------------------------------------------------------
-- Patterns
-- ---------------------------------------------------------------------------

namespace Pattern

def isCaseless : Pattern → Bool
  | one set | many set => set.isCaseless
  | seq first second | alt first second => first.isCaseless && second.isCaseless
  | ahead p | notAhead p => p.isCaseless
  | empty | letter _ | wordEdge => true

theorem atWordEdge_lower (here : Cursor) : atWordEdge here.lower = atWordEdge here := by
  simp only [atWordEdge, Cursor.lower, List.head?_map, Option.any_map, Text.isWord_toLower]

theorem manyEnds_lower {set : CharSet} (h : set.isCaseless = true) (before after : List Char) :
    manyEnds set (before.map Char.toLower) (after.map Char.toLower) =
      (manyEnds set before after).map Cursor.lower := by
  induction after generalizing before with
  | nil => rfl
  | cons c rest ih =>
    have later := ih (c :: before)
    rw [List.map_cons] at later
    rw [List.map_cons, manyEnds, manyEnds, CharSet.has_toLower h, later]
    split
    · rw [List.map_append]
      rfl
    · rfl

/-- The places where matches end, when all is in lower case. -/
theorem ends_lower {p : Pattern} (h : p.isCaseless = true) (here : Cursor) :
    p.ends here.lower = (p.ends here).map Cursor.lower := by
  induction p generalizing here with
  | empty => rfl
  | letter c =>
    obtain ⟨before, _ | ⟨d, rest⟩⟩ := here
    · rfl
    · simp only [ends, Cursor.lower, List.map_cons, sameLetter_toLower]
      split <;> rfl
  | one set =>
    obtain ⟨before, _ | ⟨d, rest⟩⟩ := here
    · rfl
    · simp only [ends, Cursor.lower, List.map_cons, CharSet.has_toLower h]
      split <;> rfl
  | seq first second ihf ihs =>
    rw [isCaseless, Bool.and_eq_true] at h
    simp only [ends, ihf h.1, List.flatMap_map, List.map_flatMap, ihs h.2]
  | alt first second ihf ihs =>
    rw [isCaseless, Bool.and_eq_true] at h
    rw [ends, ends, ihf h.1, ihs h.2, List.map_append]
  | many set => exact manyEnds_lower h here.before here.after
  | ahead p ih =>
    rw [ends, ends, ih h, List.isEmpty_map]
    split <;> rfl
  | notAhead p ih =>
    rw [ends, ends, ih h, List.isEmpty_map]
    split <;> rfl
  | wordEdge =>
    rw [ends, ends, atWordEdge_lower]
    split <;> rfl

-- ---------------------------------------------------------------------------
-- All matches
-- ---------------------------------------------------------------------------

variable {p : Pattern} (h : p.isCaseless = true)

include h

theorem matchLength?_lower (here : Cursor) : p.matchLength? here.lower = p.matchLength? here := by
  simp only [matchLength?, run_eq_findSome, ends_lower h, List.findSome?_map]
  congr 1
  funext there
  simp [Cursor.lower]

theorem properLength?_lower (here : Cursor) :
    p.properLength? here.lower = p.properLength? here := by
  simp only [properLength?, run_eq_findSome, ends_lower h, List.findSome?_map]
  congr 1
  funext there
  simp [Cursor.lower]

theorem matchesAt_lower (here : Cursor) :
    p.matchesAt here.lower = (p.matchesAt here).map Match.lower := by
  simp only [matchesAt, matchLength?_lower h, properLength?_lower h]
  cases p.matchLength? here with
  | none => rfl
  | some length =>
    cases length with
    | zero => cases p.properLength? here <;> simp [Match.lower, Cursor.lower, List.map_take]
    | succ length => simp [Match.lower, Cursor.lower, List.map_take]

omit h in
theorem covered_lower (found : List Match) : covered (found.map Match.lower) = covered found := by
  simp [covered, List.foldr_map, Match.lower]

theorem scan_lower (skip : Nat) (before after : List Char) :
    p.scan skip (before.map Char.toLower) (after.map Char.toLower) =
      (p.scan skip before after).map Match.lower := by
  induction after generalizing skip before with
  | nil =>
    rw [List.map_nil, scan, scan]
    split
    · exact matchesAt_lower h ⟨before, []⟩
    · rfl
  | cons c rest ih =>
    have later (skip : Nat) := ih skip (c :: before)
    simp only [List.map_cons] at later
    cases skip with
    | succ skip => exact later skip
    | zero =>
      have first := matchesAt_lower h ⟨before, c :: rest⟩
      rw [Cursor.lower, List.map_cons] at first
      simp only [List.map_cons, scan, first, covered_lower, later, List.map_append]

/-- The matches in a text in lower case. -/
theorem findAll_lower (text : List Char) :
    p.findAll (text.map Char.toLower) = (p.findAll text).map Match.lower :=
  scan_lower h 0 [] text

theorem occursIn_lower (text : List Char) :
    p.occursIn (text.map Char.toLower) = p.occursIn text := by
  rw [occursIn, occursIn, findAll_lower h, List.isEmpty_map]

end Pattern

end PatchReview
