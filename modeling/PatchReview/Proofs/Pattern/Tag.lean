import PatchReview.Proofs.Pattern.Longer
import PatchReview.Proofs.Pattern.Steps
import PatchReview.Proofs.Text.Separator
import PatchReview.Rule.Tables

/-!
# Patterns of tags

A pattern of tags takes a text up to its first closing sign, wherever that text stands.
So of a text that ends in a closing sign and one that is added to it, each is scanned by
itself, unless what is added undoes a match. That can happen once at most, if nothing
matches any more from there on (`IsTag.texts_append_cases`).
-/

namespace PatchReview

def EndsClosed (text : List Char) : Prop := ∀ c ∈ text.getLast?, c = '>'

theorem endsClosed_append_singleton (text : List Char) : EndsClosed (text ++ ['>']) := by
  simp [EndsClosed]

theorem EndsClosed.of_append (h : EndsClosed (text ++ after)) : EndsClosed after := by
  intro c last
  refine h c ?_
  rw [Option.mem_def] at last ⊢
  simp [List.getLast?_append, last]

theorem EndsClosed.append {inner : List Char} (h : EndsClosed text) :
    EndsClosed (inner ++ '>' :: text) := by
  intro c last
  rw [List.getLast?_append, List.getLast?_cons] at last
  cases end? : text.getLast? with
  | none => simpa [end?, eq_comm] using last
  | some d => exact h c (by simpa [end?] using last)

theorem EndsClosed.exists_init (h : EndsClosed text) (nonempty : text ≠ []) :
    ∃ init, text = init ++ ['>'] := by
  obtain ⟨c, last⟩ := Option.isSome_iff_exists.mp (List.getLast?_isSome.mpr nonempty)
  rw [h c last] at last
  exact List.getLast?_eq_some_iff.mp last

namespace Pattern

def texts (p : Pattern) (text : List Char) : List (List Char) := (p.findAll text).map (·.text)

theorem Scans.texts_eq {p : Pattern} (takes : p.TakesSome) (run : p.Scans [] text found) :
    p.texts text = found.map (·.text) := by
  rw [texts, findAll, run.scan_eq takes]

/-- A match takes a text up to its first closing sign, and whether it does so does not
depend on what stands before it. -/
structure IsTag (p : Pattern) : Prop where
  closes {before taken after : List Char} :
    p.Spans before taken after → ∃ inner, taken = inner ++ ['>'] ∧ '>' ∉ inner
  free {before taken after : List Char} (other : List Char) :
    p.Spans before taken after → p.Spans other taken after

/-- A match is undone by an addition, and nothing that comes after its beginning matches:
neither with the addition nor, behind the match, without it. -/
structure Fades (p : Pattern) (more before taken after : List Char) : Prop where
  undone : ∀ passed c rest, taken ++ after = passed ++ c :: rest →
    p.ends ⟨passed.reverse ++ before, c :: rest ++ more⟩ = []
  barren : p.Barren ⟨taken.reverse ++ before, after⟩

namespace IsTag

variable {p : Pattern} {before taken after text more : List Char} {found others : List Match}

theorem takesSome (tag : p.IsTag) : p.TakesSome := by
  intro before after spans
  obtain ⟨inner, nothing, -⟩ := tag.closes spans
  simp at nothing

theorem eq_of_spans (tag : p.IsTag) (spans : p.Spans before taken after)
    (spans' : p.Spans before' taken' after') (same : taken ++ rest = taken' ++ rest') :
    taken = taken' ∧ rest = rest' := by
  obtain ⟨inner, rfl, free⟩ := tag.closes spans
  obtain ⟨inner', rfl, free'⟩ := tag.closes spans'
  simp only [List.append_assoc, List.singleton_append] at same
  obtain ⟨rfl, rfl⟩ := append_cons_inj_of_notMem_left free free' same
  exact ⟨rfl, rfl⟩

theorem finds (tag : p.IsTag) (spans : p.Spans before taken after) :
    p.Finds before taken after := by
  obtain ⟨taken', after', same, -, finds⟩ :=
    tag.takesSome.exists_finds (ends_ne_nil.mpr ⟨taken, after, rfl, spans⟩)
  obtain ⟨rfl, rfl⟩ := tag.eq_of_spans spans finds.spans same
  exact finds

theorem exists_within (tag : p.IsTag) (spans : p.Spans before taken after)
    (closed : EndsClosed text) (nonempty : text ≠ []) (same : text ++ more = taken ++ after) :
    ∃ rest, text = taken ++ rest ∧ after = rest ++ more := by
  obtain ⟨inner, rfl, free⟩ := tag.closes spans
  obtain ⟨init, rfl⟩ := closed.exists_init nonempty
  simp only [List.append_assoc, List.singleton_append] at same ⊢
  obtain ⟨left, rfl, follows⟩ := exists_left_of_append free same
  cases left with
  | nil =>
    obtain rfl : after = more := by simpa using follows
    exact ⟨[], by simp, rfl⟩
  | cons c left =>
    obtain ⟨rfl, rfl⟩ := List.cons.inj follows
    exact ⟨left ++ ['>'], by simp, by simp⟩

theorem finds_closed (tag : p.IsTag) (closed : EndsClosed text) (listed : m ∈ p.findAll text) :
    ∃ rest, m.start.after = m.text ++ rest ∧ EndsClosed rest ∧
      p.Spans m.start.before m.text rest := by
  have run : p.Scans [] text (p.findAll text) := tag.takesSome.scans [] text
  obtain ⟨rest, place, finds⟩ := run.finds listed
  obtain ⟨passed, -, rfl⟩ := run.whole listed
  rw [place, ← List.append_assoc] at closed
  exact ⟨rest, place, closed.of_append, finds.spans⟩

/-- A match stays when a text is added exactly if it matches the same text as before. -/
theorem ends_extend_ne_nil (tag : p.IsTag) (spans : p.Spans before taken after) :
    p.ends ⟨before, (taken ++ after) ++ more⟩ ≠ [] ↔ p.Spans before taken (after ++ more) := by
  rw [ends_ne_nil]
  constructor
  · rintro ⟨taken', rest, whole, others⟩
    rw [List.append_assoc] at whole
    obtain ⟨rfl, rfl⟩ := tag.eq_of_spans spans others whole
    exact others
  · intro stays
    exact ⟨taken, after ++ more, List.append_assoc .., stays⟩

/-- What is scanned from a place on does not depend on what stands before it. -/
theorem exists_scans (tag : p.IsTag) (run : p.Scans before after found) (other : List Char) :
    ∃ others, p.Scans other after others ∧ others.map (·.text) = found.map (·.text) := by
  induction run generalizing other with
  | done => exact ⟨[], .done other, rfl⟩
  | @pass before c rest found none later ih =>
    obtain ⟨others, run, same⟩ := ih (c :: other)
    refine ⟨others, .pass (ends_eq_nil.mpr ?_) run, same⟩
    intro taken after whole spans
    exact ends_eq_nil.mp none taken after whole (tag.free before spans)
  | @take before taken after found some finds later ih =>
    obtain ⟨others, run, same⟩ := ih (taken.reverse ++ other)
    exact ⟨_, .take some (tag.finds (tag.free other finds.spans)) run, by simp [same]⟩

theorem scans_append_cases (tag : p.IsTag)
    (shrinks : ∀ before taken after, p.Spans before taken (after ++ more) →
      p.Spans before taken after)
    (lasts : ∀ before taken after, EndsClosed after → p.Spans before taken after →
      p.Spans before taken (after ++ more) ∨ p.Fades more before taken after)
    (run : p.Scans before text found) (closed : EndsClosed text)
    (next : p.Scans (text.reverse ++ before) more others) :
    (p.Scans before (text ++ more) (found.map (.extend more) ++ others) ∧
      ∀ m ∈ found, p.ends (m.start.extend more) ≠ []) ∨
    ∃ early m, found = early ++ [m] ∧ p.ends (m.start.extend more) = [] ∧
      p.Scans before (text ++ more) (early.map (.extend more) ++ others) := by
  induction run with
  | done before => exact .inl ⟨by simpa using next, nofun⟩
  | @pass before c rest found none later ih =>
    have closedWhole : EndsClosed ([c] ++ rest) := closed
    have closedRest : EndsClosed rest := closedWhole.of_append
    have still : p.ends ⟨before, c :: (rest ++ more)⟩ = [] := by
      refine ends_eq_nil.mpr ?_
      intro taken after whole spans
      obtain ⟨left, within, rfl⟩ := tag.exists_within spans closed (by simp) whole
      exact ends_eq_nil.mp none taken left within (shrinks _ _ _ spans)
    rcases ih closedRest (by simpa using next) with ⟨run, kept⟩ | ⟨early, m, split, undone, run⟩
    · exact .inl ⟨.pass still run, kept⟩
    · exact .inr ⟨early, m, split, undone, .pass still run⟩
  | @take before taken after found nonempty finds later ih =>
    have closedRest : EndsClosed after := closed.of_append
    rcases lasts before taken after closedRest finds.spans with spans | fades
    · have first : p.Finds before taken (after ++ more) := tag.finds spans
      have here : p.ends ⟨before, taken ++ (after ++ more)⟩ ≠ [] :=
        ends_ne_nil.mpr ⟨taken, after ++ more, rfl, spans⟩
      rw [List.append_assoc]
      rcases ih closedRest (by simpa using next) with ⟨run, kept⟩ | ⟨early, m, split, undone, run⟩
      · refine .inl ⟨by simpa [Match.extend, Cursor.extend] using Scans.take nonempty first run, ?_⟩
        rw [List.forall_mem_cons]
        exact ⟨by simpa [Cursor.extend] using here, kept⟩
      · refine .inr ⟨⟨⟨before, taken ++ after⟩, taken⟩ :: early, m, by simp [split], undone, ?_⟩
        simpa [Match.extend, Cursor.extend] using Scans.take nonempty first run
    · -- Behind the match there is nothing to be found, and from its beginning on nothing matches
      -- any more.
      have nothing : found = [] :=
        (later.scan_eq tag.takesSome).symm.trans (scan_eq_nil.mpr fades.barren)
      obtain ⟨c, rest, rfl⟩ := List.exists_cons_of_ne_nil nonempty
      refine .inr ⟨[], _, by rw [nothing]; rfl, ?_, ?_⟩
      · simpa [Cursor.extend] using fades.undone [] c (rest ++ after) rfl
      · exact .passes fades.undone (by simpa using next)

/-- Of a text that ends in a closing sign all matches stay when another one is added, or
all but the last one. The matches of the other one are added to them. -/
theorem texts_append_cases (tag : p.IsTag)
    (shrinks : ∀ before taken after, p.Spans before taken (after ++ more) →
      p.Spans before taken after)
    (lasts : ∀ before taken after, EndsClosed after → p.Spans before taken after →
      p.Spans before taken (after ++ more) ∨ p.Fades more before taken after)
    (closed : EndsClosed text) :
    (p.texts (text ++ more) = p.texts text ++ p.texts more ∧
      ∀ m ∈ p.findAll text, p.ends (m.start.extend more) ≠ []) ∨
    ∃ early m, p.findAll text = early ++ [m] ∧ p.ends (m.start.extend more) = [] ∧
      p.texts (text ++ more) = early.map (·.text) ++ p.texts more := by
  have run : p.Scans [] text (p.findAll text) := tag.takesSome.scans [] text
  obtain ⟨others, next, same⟩ := tag.exists_scans (tag.takesSome.scans [] more) (text.reverse ++ [])
  have kept (found : List Match) :
      (found.map (Match.extend more)).map Match.text = found.map Match.text := by
    rw [List.map_map]
    rfl
  rcases tag.scans_append_cases shrinks lasts run closed next with
    ⟨whole, stays⟩ | ⟨early, m, split, undone, whole⟩
  · refine .inl ⟨?_, stays⟩
    rw [whole.texts_eq tag.takesSome, List.map_append, kept, same]
    rfl
  · refine .inr ⟨early, m, split, undone, ?_⟩
    rw [whole.texts_eq tag.takesSome, List.map_append, kept, same]
    rfl

theorem texts_append (tag : p.IsTag)
    (steady : ∀ before taken after others, p.Spans before taken after →
      p.Spans before taken others)
    (closed : EndsClosed text) : p.texts (text ++ more) = p.texts text ++ p.texts more := by
  have lasts (before taken after : List Char) (_ : EndsClosed after)
      (spans : p.Spans before taken after) :
      p.Spans before taken (after ++ more) ∨ p.Fades more before taken after :=
    .inl (steady before taken after _ spans)
  rcases tag.texts_append_cases (fun _ _ _ => steady _ _ _ _) lasts closed with
    ⟨whole, -⟩ | ⟨early, m, split, undone, -⟩
  · exact whole
  · obtain ⟨rest, place, -, spans⟩ := tag.finds_closed (m := m) closed (by simp [split])
    rw [Cursor.extend, place] at undone
    exact absurd undone ((tag.ends_extend_ne_nil spans).mpr (steady _ _ _ _ spans))

theorem texts_congr {q : Pattern} (tag : p.IsTag) (tag' : q.IsTag)
    (same : ∀ before taken after, p.Spans before taken after ↔ q.Spans before taken after)
    (text : List Char) : p.texts text = q.texts text := by
  have along {before after : List Char} {found : List Match} (run : p.Scans before after found) :
      q.Scans before after found := by
    induction run with
    | done before => exact .done before
    | @pass before c rest found none later ih =>
      refine .pass (ends_eq_nil.mpr ?_) ih
      intro taken after whole spans
      exact ends_eq_nil.mp none taken after whole ((same before taken after).mpr spans)
    | take nonempty finds later ih =>
      exact .take nonempty (tag'.finds ((same _ _ _).mp finds.spans)) ih
  have found : q.findAll text = p.findAll text :=
    (along (tag.takesSome.scans [] text)).scan_eq tag'.takesSome
  rw [texts, texts, found]

end IsTag

end Pattern

end PatchReview
