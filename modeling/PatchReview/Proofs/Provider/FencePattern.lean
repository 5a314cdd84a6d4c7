import PatchReview.Proofs.Pattern.Group
import PatchReview.Proofs.Provider.Fence

/-!
# Fences as a pattern

A fence with the text inside is a pattern of a whole text: marks with a tag, white space, the
text, white space, and marks. The white space in front is taken as far as it goes, and the text
as far as it has to, so the text comes out stripped, whatever marks and tags it holds itself. The
pattern takes just the texts that have a fence at both ends (`withoutFence_eq_inside`).
-/

namespace PatchReview.Payload

open Text (isBlank strip)

variable {text inner tag body : List Char}

-- ---------------------------------------------------------------------------
-- The pattern
-- ---------------------------------------------------------------------------

/-- The marks that open a fence, with a tag if there is one, and white space after them. -/
def opening : Pattern :=
  .seq (.literal "```") (.seq (.optional (.literal "json")) (.many .blank))

def closing : Pattern := .seq (.many .blank) (.literal "```")

/-- The text in a fence that a whole text consists of. -/
def inside? (text : List Char) : Option (List Char) := Pattern.group? opening closing text

theorem spells_fence : Text.Spells text "```" ↔ text = fence := by
  have mark (c : Char) : Text.fold c = '`' ↔ c = '`' := Text.fold_eq_iff (by decide)
  have marks : "```".toList.map Text.fold = ['`', '`', '`'] := by decide
  rw [Text.Spells, marks]
  simp [List.map_eq_cons_iff, mark, fence]

theorem spans_closing :
    closing.Spans before taken after ↔ ∃ gap, taken = gap ++ fence ∧ ∀ c ∈ gap, isBlank c = true := by
  simp only [closing, Pattern.spans_seq, Pattern.spans_many, Pattern.spans_literal, spells_fence]
  constructor
  · rintro ⟨gap, marks, rfl, blank, rfl⟩
    exact ⟨gap, rfl, blank⟩
  · rintro ⟨gap, rfl, blank⟩
    exact ⟨gap, fence, rfl, blank, rfl⟩

theorem exists_inner_of_inside? (h : inside? text = some taken) :
    ∃ inner, text = fence ++ inner ++ fence := by
  obtain ⟨first, last, rfl, opens, closes⟩ := Pattern.exists_of_group?_eq_some h
  obtain ⟨marks, rest, rfl, fenced, -⟩ := Pattern.spans_seq.mp opens
  obtain rfl := spells_fence.mp (Pattern.spans_literal.mp fenced)
  obtain ⟨gap, rfl, -⟩ := spans_closing.mp closes
  exact ⟨rest ++ (taken ++ gap), by simp⟩

-- ---------------------------------------------------------------------------
-- The text inside
-- ---------------------------------------------------------------------------

theorem reluctant?_closing (ends : ∀ c ∈ kept.getLast?, isBlank c = false)
    (gap : ∀ c ∈ trail, isBlank c = true) (before : List Char) :
    Pattern.reluctant? closing before (kept ++ (trail ++ fence)) = some kept := by
  induction kept generalizing before with
  | nil =>
    have all : closing.takesAll ⟨before, trail ++ fence⟩ = true :=
      Pattern.takesAll_iff.mpr (spans_closing.mpr ⟨trail, rfl, gap⟩)
    rw [List.nil_append, Pattern.reluctant?.eq_def, if_pos all]
  | cons c kept ih =>
    obtain ⟨d, last⟩ : ∃ d, (c :: kept).getLast? = some d := ⟨_, List.getLast?_cons⟩
    have notAll : ¬ closing.takesAll ⟨before, (c :: kept) ++ (trail ++ fence)⟩ = true := by
      intro all
      obtain ⟨blanks, whole, blank⟩ := spans_closing.mp (Pattern.takesAll_iff.mp all)
      rw [← List.append_assoc] at whole
      obtain rfl := List.append_cancel_right whole
      have isBlank := blank d (List.mem_append_left _ (List.mem_of_getLast? last))
      rw [ends d last] at isBlank
      cases isBlank
    have endsRest : ∀ c ∈ kept.getLast?, isBlank c = false := by
      intro e lastRest
      refine ends e ?_
      rw [Option.mem_def] at lastRest ⊢
      rw [List.getLast?_cons, lastRest]
      rfl
    rw [List.cons_append] at notAll ⊢
    rw [Pattern.reluctant?, if_neg notAll, ih endsRest]
    rfl

theorem run_blank_of_body (before body : List Char) :
    (Pattern.many .blank).run ⟨before, body ++ fence⟩
        (fun there => Pattern.reluctant? closing there.before there.after) = some (strip body) := by
  obtain ⟨lead, trail, whole, blank, gap, begins⟩ := Text.exists_around_trimBy isBlank body
  obtain ⟨stop, rest, stops, visible⟩ :
      ∃ stop rest, strip body ++ (trail ++ fence) = stop :: rest ∧ isBlank stop = false := by
    rw [← List.append_assoc]
    cases kept : strip body ++ trail with
    | nil => exact ⟨'`', ['`', '`'], rfl, by decide⟩
    | cons c others => exact ⟨c, others ++ fence, rfl, begins c (by rw [← strip, kept]; rfl)⟩
  have found := reluctant?_closing (Text.getLast?_trimBy isBlank body) gap (lead.reverse ++ before)
  change Pattern.reluctant? closing _ (strip body ++ (trail ++ fence)) = some (strip body) at found
  have text : body ++ fence = lead ++ stop :: rest := by
    rw [← stops, ← List.append_assoc, ← List.append_assoc, List.append_assoc lead]
    exact congrArg (· ++ fence) whole
  rw [stops] at found
  rw [text]
  exact Pattern.runMany_of_taken blank visible found

theorem inside?_eq (inner : List Char) :
    inside? (fence ++ inner ++ fence) =
      (Pattern.optional (.literal "json")).run ⟨fence.reverse, inner ++ fence⟩ fun there =>
        (Pattern.many .blank).run there fun last =>
          Pattern.reluctant? closing last.before last.after := by
  rw [inside?, Pattern.group?, opening, Pattern.run, Cursor.start, List.append_assoc,
    Pattern.run_literal_of_spells (spells_fence.mpr rfl), List.append_nil]
  rfl

theorem inside?_of_spells (named : Text.Spells tag "json") (body : List Char) :
    inside? (fence ++ (tag ++ body) ++ fence) = some (strip body) := by
  rw [inside?_eq, Pattern.optional, Pattern.run, List.append_assoc,
    Pattern.run_literal_of_spells named, run_blank_of_body]

theorem begins_of_begins_append_fence (h : Text.Begins (inner ++ fence) "json") :
    Text.Begins inner "json" := by
  obtain ⟨spelled, after, whole, named⟩ := Text.begins_iff.mp h
  have noMark : '`' ∉ spelled := named.notMem (by decide) (by decide)
  obtain ⟨left, rfl, -⟩ := exists_left_of_append noMark whole
  exact Text.begins_iff.mpr ⟨spelled, left, rfl, named⟩

theorem inside?_of_not_begins (other : ¬ Text.Begins inner "json") :
    inside? (fence ++ inner ++ fence) = some (strip inner) := by
  have noTag : ¬ Text.Begins (inner ++ fence) "json" := mt begins_of_begins_append_fence other
  rw [inside?_eq, Pattern.optional, Pattern.run, Pattern.run_literal_of_not_begins noTag]
  exact run_blank_of_body _ _

-- ---------------------------------------------------------------------------
-- Texts with and without a fence
-- ---------------------------------------------------------------------------

theorem withoutTag_of_not_begins (other : ¬ Text.Begins text "json") : withoutTag text = text := by
  unfold withoutTag
  split
  · rfl
  · split
    · next named =>
      refine absurd (Text.begins_iff.mpr ⟨text.take 4, text.drop 4, ?_, ?_⟩) other
      · exact (List.take_append_drop 4 text).symm
      · exact named.trans (by decide)
    · rfl

theorem exists_inner (long : 6 ≤ text.length) (opens : fence <+: text) (closes : fence <:+ text) :
    ∃ inner, text = fence ++ inner ++ fence := by
  obtain ⟨rest, rfl⟩ := opens
  have size : fence.length ≤ rest.length := by
    have marks : fence.length = 3 := rfl
    rw [List.length_append] at long
    omega
  obtain ⟨inner, rfl⟩ :=
    List.suffix_of_suffix_length_le closes (List.suffix_append fence rest) size
  exact ⟨inner, by simp⟩

theorem withoutFence_of_not_fenced
    (bare : ¬(6 ≤ (strip text).length ∧ fence <+: strip text ∧ fence <:+ strip text)) :
    withoutFence text = strip text := by
  have noFence : ¬((decide (6 ≤ (strip text).length) && fence.isPrefixOf (strip text) &&
      fence.isSuffixOf (strip text)) = true) := by
    simpa [and_assoc] using bare
  rw [withoutFence, if_neg noFence]

theorem withoutFence_of_fenced (fenced : strip text = fence ++ inner ++ fence) :
    withoutFence text = strip (withoutTag inner) := by
  obtain ⟨lead, trail, whole, before, after, -⟩ := Text.exists_around_trimBy isBlank text
  change text = lead ++ (strip text ++ trail) at whole
  rw [whole, fenced, ← List.append_assoc]
  exact withoutFence_fenced before after inner

theorem withoutFence_of_spells (fenced : strip text = fence ++ (tag ++ body) ++ fence)
    (named : Text.Spells tag "json") : withoutFence text = strip body := by
  rw [withoutFence_of_fenced fenced, withoutTag_of_named (named.trans (by decide))]

theorem withoutFence_of_not_begins (fenced : strip text = fence ++ inner ++ fence)
    (other : ¬ Text.Begins inner "json") : withoutFence text = strip inner := by
  rw [withoutFence_of_fenced fenced, withoutTag_of_not_begins other]

/-- What is inside a fence is a tag, if there is one, and a body, which is stripped. -/
theorem exists_body_of_fenced (fenced : strip text = fence ++ inner ++ fence) :
    ∃ tag body, inner = tag ++ body ∧ IsTag tag ∧ withoutFence text = strip body ∧
      inside? (strip text) = some (strip body) := by
  by_cases begins : Text.Begins inner "json"
  · obtain ⟨tag, body, rfl, named⟩ := Text.begins_iff.mp begins
    refine ⟨tag, body, rfl, .inr (named.trans (by decide)), withoutFence_of_spells fenced named, ?_⟩
    rw [fenced, inside?_of_spells named]
  · refine ⟨[], inner, rfl, .inl rfl, withoutFence_of_not_begins fenced begins, ?_⟩
    rw [fenced, inside?_of_not_begins begins]

theorem exists_strip_eq_withoutFence (text : List Char) : ∃ body, withoutFence text = strip body := by
  rw [withoutFence]
  split
  · exact ⟨_, rfl⟩
  · exact ⟨text, rfl⟩

/-- A text comes down to what the pattern of a fence takes of it, stripped, or to itself. It is
taken off its fence exactly if it has marks at both ends, which do not overlap; and of what is
inside only a tag and white space go with them. -/
theorem withoutFence_eq_inside (text : List Char) :
    withoutFence text = (inside? (strip text)).getD (strip text) ∧
    (¬(6 ≤ (strip text).length ∧ fence <+: strip text ∧ fence <:+ strip text) →
      withoutFence text = strip text) ∧
    (6 ≤ (strip text).length → fence <+: strip text → fence <:+ strip text →
      ∃ inner, strip text = fence ++ inner ++ fence ∧
        (∀ tag body, inner = tag ++ body → Text.Spells tag "json" →
          withoutFence text = strip body) ∧
        (¬ Text.Begins inner "json" → withoutFence text = strip inner) ∧
        ∃ tag lead trail, IsTag tag ∧ (∀ c ∈ lead, isBlank c = true) ∧
          (∀ c ∈ trail, isBlank c = true) ∧
          inner = tag ++ (lead ++ (withoutFence text ++ trail))) ∧
    (∀ c ∈ (withoutFence text).head?, isBlank c = false) ∧
    ∀ c ∈ (withoutFence text).getLast?, isBlank c = false := by
  refine ⟨?_, withoutFence_of_not_fenced, fun long opens closes => ?_, ?_, ?_⟩
  · by_cases fenced : 6 ≤ (strip text).length ∧ fence <+: strip text ∧ fence <:+ strip text
    · obtain ⟨inner, whole⟩ := exists_inner fenced.1 fenced.2.1 fenced.2.2
      obtain ⟨tag, body, -, -, left, taken⟩ := exists_body_of_fenced whole
      rw [left, taken, Option.getD_some]
    · cases found : inside? (strip text) with
      | none => rw [withoutFence_of_not_fenced fenced, Option.getD_none]
      | some taken =>
        obtain ⟨inner, whole⟩ := exists_inner_of_inside? found
        refine absurd ⟨?_, ?_, ?_⟩ fenced
        · simp [whole, fence]
        · rw [whole, List.append_assoc]
          exact List.prefix_append _ _
        · rw [whole]
          exact List.suffix_append _ _
  · obtain ⟨inner, whole⟩ := exists_inner long opens closes
    refine ⟨inner, whole, fun tag body parts named => withoutFence_of_spells (parts ▸ whole) named,
      withoutFence_of_not_begins whole, ?_⟩
    obtain ⟨tag, body, parts, isTag, left, -⟩ := exists_body_of_fenced whole
    obtain ⟨lead, trail, around, before, after, -⟩ := Text.exists_around_trimBy isBlank body
    refine ⟨tag, lead, trail, isTag, before, after, ?_⟩
    rw [left, parts]
    exact congrArg (tag ++ ·) around
  · obtain ⟨body, left⟩ := exists_strip_eq_withoutFence text
    rw [left]
    exact Text.head?_trimBy isBlank body
  · obtain ⟨body, left⟩ := exists_strip_eq_withoutFence text
    rw [left]
    exact Text.getLast?_trimBy isBlank body

/-- A fence in the text inside a fence stays. -/
theorem withoutFence_eq_inside_nested :
    withoutFence " ```JSON\n[\"```js\\n```\"]\n``` ".toList = "[\"```js\\n```\"]".toList := by
  obtain ⟨-, -, fenced, -⟩ := withoutFence_eq_inside " ```JSON\n[\"```js\\n```\"]\n``` ".toList
  obtain ⟨inner, whole, tagged, -⟩ := fenced (by decide +kernel) (by decide +kernel) (by decide +kernel)
  have stripped : strip " ```JSON\n[\"```js\\n```\"]\n``` ".toList =
      fence ++ ("JSON".toList ++ "\n[\"```js\\n```\"]\n".toList) ++ fence := by decide +kernel
  obtain rfl := List.append_cancel_left (List.append_cancel_right (whole.symm.trans stripped))
  rw [tagged _ _ rfl (by decide)]
  decide +kernel

end PatchReview.Payload
