import PatchReview.Proofs.Pattern.Longest
import PatchReview.Proofs.Pattern.Words
import PatchReview.Proofs.Rule

/-!
# Texts taken apart

A scan takes a text apart into gaps and matches: what stands between two matches is a text at
whose places the pattern matches nothing, and each match is the one that the pattern prefers at
its place. A pattern that always takes something takes a text apart in one way only
(`TakesSome.decomposes_iff`). The rules of the tables and the rules for literals have such
patterns, so what they report is settled by that one decomposition.
-/

namespace PatchReview

namespace Pattern

/-- Of all matches at a place the pattern prefers the one that takes a text. -/
def Prefers (p : Pattern) (before taken after : List Char) : Prop :=
  (p.ends ⟨before, taken ++ after⟩).head? = some ⟨taken.reverse ++ before, after⟩

/-- The pattern matches at no place inside a gap. -/
def Spares (p : Pattern) (before gap after : List Char) : Prop :=
  ∀ passed c rest, gap = passed ++ c :: rest →
    p.ends ⟨passed.reverse ++ before, c :: rest ++ after⟩ = []

/-- A text is a gap, or it begins with a gap and a preferred match, behind which it goes on in
the same way. -/
inductive Decomposes (p : Pattern) : List Char → List Char → List Match → Prop
  | last (spared : p.Spares before gap []) : Decomposes p before gap []
  | next (spared : p.Spares before gap (taken ++ after))
      (prefers : p.Prefers (gap.reverse ++ before) taken after)
      (later : Decomposes p (taken.reverse ++ (gap.reverse ++ before)) after found) :
      Decomposes p before (gap ++ (taken ++ after))
        (⟨⟨gap.reverse ++ before, taken ++ after⟩, taken⟩ :: found)

variable {p : Pattern} {before text passed rest taken after gap : List Char} {found : List Match}

-- ---------------------------------------------------------------------------
-- Preferred matches
-- ---------------------------------------------------------------------------

theorem Finds.prefers (h : p.Finds before taken after) : p.Prefers before taken after := by
  obtain ⟨there, others, reached, length⟩ := h.exists_head
  obtain ⟨first, starts, past⟩ := exists_past (reached ▸ List.mem_cons_self)
  have whole : taken ++ after = first ++ there.after := congrArg Cursor.after starts
  obtain ⟨rfl, same⟩ := List.append_inj' whole length.symm
  rw [Prefers, reached, List.head?_cons, past, same]

theorem Prefers.spans (h : p.Prefers before taken after) : p.Spans before taken after :=
  List.mem_of_head? h

theorem TakesSome.finds (takes : p.TakesSome) (h : p.Prefers before taken after) :
    p.Finds before taken after := by
  have some : p.ends ⟨before, taken ++ after⟩ ≠ [] := ends_ne_nil.mpr ⟨taken, after, rfl, h.spans⟩
  obtain ⟨other, rest, whole, -, finds⟩ := takes.exists_finds some
  have first : p.Prefers before other rest := finds.prefers
  rw [Prefers, ← whole, h] at first
  obtain rfl : after = rest := congrArg Cursor.after (Option.some.inj first)
  obtain rfl : taken = other := List.append_cancel_right whole
  exact finds

-- ---------------------------------------------------------------------------
-- What a scan takes apart
-- ---------------------------------------------------------------------------

theorem spares_nil : p.Spares before [] after := fun passed _ _ whole =>
  absurd whole (by cases passed <;> nofun)

theorem Spares.cons (none : p.ends ⟨before, c :: (gap ++ after)⟩ = [])
    (h : p.Spares (c :: before) gap after) : p.Spares before (c :: gap) after := by
  intro passed d rest whole
  cases passed with
  | nil =>
    obtain ⟨rfl, rfl⟩ := List.cons.inj whole
    exact none
  | cons e passed =>
    obtain ⟨rfl, rfl⟩ := List.cons.inj whole
    simpa using h passed d rest rfl

theorem Scans.decomposes (run : p.Scans before text found) : p.Decomposes before text found := by
  induction run with
  | done before => exact .last spares_nil
  | pass none _ ih =>
    -- The first character is one more of the gap that the rest begins with.
    cases ih with
    | last spared => exact .last (spared.cons (by simpa using none))
    | next spared prefers later =>
      have wider := spared.cons none
      simpa using Decomposes.next wider (by simpa using prefers) (by simpa using later)
  | take _ finds _ ih => exact .next spares_nil finds.prefers ih

theorem Decomposes.scans (h : p.Decomposes before text found) (takes : p.TakesSome) :
    p.Scans before text found := by
  induction h with
  | last spared => simpa using Scans.passes spared (.done _)
  | next spared prefers later ih =>
    exact .passes spared (.take (takes.ne_nil prefers.spans) (takes.finds prefers) ih)

/-- There is one decomposition, into the matches that a scan finds. -/
theorem TakesSome.decomposes_iff (takes : p.TakesSome) :
    p.Decomposes [] text found ↔ found = p.findAll text := by
  constructor
  · exact fun h => ((h.scans takes).scan_eq takes).symm
  · rintro rfl
    exact (takes.scans [] text).decomposes

/-- Wherever the pattern matches, a match of the decomposition begins or goes on. -/
theorem Decomposes.exists_at (h : p.Decomposes [] text found) (takes : p.TakesSome)
    (whole : text = passed ++ rest) (some : p.ends ⟨passed.reverse, rest⟩ ≠ []) :
    ∃ m ∈ found, m.position = passed.length ∨
      m.position < passed.length ∧ passed.length < m.stop := by
  obtain ⟨m, among, inner, more, left, text, proper, -, place⟩ :=
    (h.scans takes).exists_over whole (by simpa using some) takes
  refine ⟨m, among, ?_⟩
  have before := congrArg List.length place
  have length := congrArg List.length text
  have := List.length_pos_iff.mpr proper
  simp only [List.length_append, List.length_reverse, List.length_nil] at before length
  simp only [Match.position, Match.stop]
  omega

-- ---------------------------------------------------------------------------
-- Patterns that always take something
-- ---------------------------------------------------------------------------

theorem mayBeEmpty_letters (word : List Char) (next : Pattern) :
    (letters word next).mayBeEmpty = (word.isEmpty && next.mayBeEmpty) := by
  cases word <;> rfl

theorem mayBeEmpty_literal (filled : word ≠ "") : (literal word).mayBeEmpty = false := by
  have some : word.toList ≠ [] := by simpa using filled
  rw [literal, mayBeEmpty_letters, List.isEmpty_eq_false_iff.mpr some]
  rfl

theorem mayBeEmpty_alternatives {words : List String} (some : words ≠ [])
    (filled : ∀ word ∈ words, word ≠ "") : (alternatives words).mayBeEmpty = false := by
  induction words with
  | nil => exact absurd rfl some
  | cons word rest ih =>
    rw [List.forall_mem_cons] at filled
    have first := mayBeEmpty_literal filled.1
    cases rest with
    | nil => exact first
    | cons next rest => exact Bool.or_eq_false_iff.mpr ⟨first, ih nofun filled.2⟩

theorem mayBeEmpty_anyOf {words : List String} (some : words ≠ [])
    (filled : ∀ word ∈ words, word ≠ "") : (anyOf words).mayBeEmpty = false := by
  unfold anyOf
  split
  · dsimp only
    split
    · rw [mayBeEmpty_letters, mayBeEmpty, Bool.and_false]
    · exact mayBeEmpty_alternatives some filled
  · exact mayBeEmpty_alternatives some filled

theorem mayBeEmpty_of_mem_tableRows (h : row ∈ tableRows) (hp : .inl rule ∈ row.2.parts) :
    rule.pattern.mayBeEmpty = false := by
  have all : ∀ row ∈ tableRows, ∀ part ∈ row.2.parts,
      part.elim (!·.pattern.mayBeEmpty) (fun _ => true) = true := by decide
  simpa using all row h _ hp

/-- The pattern of a rule in the tables, or a pattern for literals of which none is empty. -/
inductive Stated : Pattern → Prop
  | row {rule : PatternRule Severity} (h : row ∈ tableRows) (hp : .inl rule ∈ row.2.parts) :
      Stated rule.pattern
  | literals {words : List String} (some : words ≠ []) (filled : ∀ word ∈ words, word ≠ "") :
      Stated (anyOf words)

theorem Stated.takesSome (stated : p.Stated) : p.TakesSome := by
  refine takesSome_of_mayBeEmpty ?_
  cases stated with
  | row h hp => exact mayBeEmpty_of_mem_tableRows h hp
  | literals some filled => exact mayBeEmpty_anyOf some filled

end Pattern

-- ---------------------------------------------------------------------------
-- Rules
-- ---------------------------------------------------------------------------

namespace PatternRule

/-- What a rule reports on a text if some texts are taken for its matches. -/
def verdict (rule : PatternRule σ) (filename : String) (text : List Char)
    (found : List (List Char)) : Except RuleFault (Option (Finding σ)) :=
  if rule.appliesTo filename && rule.fires found text then
    match rule.message.fill (matchedTexts found) with
    | .error fault => .error (.template fault)
    | .ok message => .ok (some ⟨rule.severity, none, message, rule.suggestion⟩)
  else .ok none

theorem evaluate_eq_verdict (rule : PatternRule σ) (filename : String) (text : List Char) :
    rule.evaluate filename (some text) = rule.verdict filename text (rule.found text) := by
  unfold evaluate verdict
  cases rule.appliesTo filename with
  | false => rfl
  | true => cases fires : rule.fires (rule.found text) text <;> simp only [fires] <;> rfl

/-- A rule of the tables or for literals reports on the matches of a decomposition of the text,
which is the only one. Wherever its pattern matches, one of them begins or goes on. -/
theorem evaluate_of_decomposes {rule : PatternRule σ} (stated : rule.pattern.Stated)
    (filename : String) (text : List Char) :
    ∃ found, rule.pattern.Decomposes [] text found ∧
      (∀ other, rule.pattern.Decomposes [] text other → other = found) ∧
      (∀ passed rest, text = passed ++ rest → rule.pattern.ends ⟨passed.reverse, rest⟩ ≠ [] →
        ∃ m ∈ found, m.position = passed.length ∨
          m.position < passed.length ∧ passed.length < m.stop) ∧
      rule.evaluate filename (some text) = rule.verdict filename text (found.map (·.text)) := by
  have takes := stated.takesSome
  have apart := takes.decomposes_iff.mpr (rfl : rule.pattern.findAll text = _)
  refine ⟨_, apart, fun _ => takes.decomposes_iff.mp, fun passed rest whole some => ?_, ?_⟩
  · exact apart.exists_at takes whole some
  · exact rule.evaluate_eq_verdict filename text

/-- Two imports on one line: the pattern matches at the second one too, which the match at the
first one goes on over. -/
theorem evaluate_of_decomposes_imports :
    let text := "import moment; import lodash".toList
    let rule := heavyLibraryImport
    rule.pattern.ends ⟨"import moment; ".toList.reverse, "import lodash".toList⟩ ≠ [] ∧
    (∃ found, rule.pattern.Decomposes [] text found ∧ found.map (·.text) = [text] ∧
      (∀ other, rule.pattern.Decomposes [] text other → other = found) ∧
      ∃ m ∈ found, m.position < 15 ∧ 15 < m.stop) ∧
    rule.evaluate "a.js" (some text) =
      .ok (some ⟨.medium, none, "Importing heavy libraries: import moment; import lodash",
        some "Consider using lighter alternatives or importing only needed functions"⟩) := by
  intro text rule
  have listed : (Category.performance, Rule.pattern rule) ∈ tableRows :=
    List.mem_flatMap.mpr ⟨.performance, by decide, List.mem_map_of_mem List.mem_cons_self⟩
  have stated : rule.pattern.Stated := .row listed List.mem_cons_self
  have second :
      rule.pattern.ends ⟨"import moment; ".toList.reverse, "import lodash".toList⟩ ≠ [] := by
    decide +kernel
  obtain ⟨found, apart, only, covers, reports⟩ := evaluate_of_decomposes stated "a.js" text
  have scanned : found = rule.pattern.findAll text := stated.takesSome.decomposes_iff.mp apart
  have texts : found.map (·.text) = [text] := by
    rw [scanned]
    decide +kernel
  refine ⟨second, ⟨found, apart, texts, only, ?_⟩, ?_⟩
  · obtain ⟨m, among, begins | inside⟩ := covers "import moment; ".toList _ rfl second
    · have none : ∀ m ∈ found, m.position ≠ 15 := by
        rw [scanned]
        decide +kernel
      exact absurd begins (none m among)
    · exact ⟨m, among, inside⟩
  · rw [reports, texts]
    decide +kernel

end PatternRule

end PatchReview
