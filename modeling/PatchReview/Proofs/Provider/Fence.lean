import PatchReview.Proofs.Json.Reader
import PatchReview.Proofs.Provider.Replies

/-!
# Fences around JSON

A text that is JSON begins with a character that begins a value, so it is
neither a fence nor the tag of one, and it ends with a visible character. What
is taken off around it, a fence with its tag or only white space, is therefore
never a part of it: the same value is read with or without
(`parse_between_fences`).
-/

namespace PatchReview.Payload

open Text (isBlank strip fold)

-- ---------------------------------------------------------------------------
-- Tags
-- ---------------------------------------------------------------------------

/-- What may follow the marks that open a fence: nothing, or `json` in any case. -/
def IsTag (tag : List Char) : Prop := tag = [] ∨ tag.map fold = ['j', 's', 'o', 'n']

theorem fold_ne_of_opensValue (h : Json.opensValue c = true) : fold c ≠ 'j' := by
  have ascii : ∀ n < 128, Json.opensValue (Char.ofNat n) = true → fold (Char.ofNat n) ≠ 'j' := by
    decide
  have ink := Json.isInk_of_opensValue h
  simp only [Json.isInk, Bool.and_eq_true, decide_eq_true_eq] at ink
  have small := ascii c.toNat (by omega)
  rw [Char.ofNat_toNat] at small
  exact small h

theorem withoutTag_of_head (other : ∀ c ∈ text.head?, fold c ≠ 'j') : withoutTag text = text := by
  unfold withoutTag
  split
  · rfl
  · split
    · next tagged =>
      cases text with
      | nil => rfl
      | cons c rest =>
        rw [List.take_succ_cons, List.map_cons] at tagged
        exact absurd (List.cons.inj tagged).1 (other c rfl)
    · rfl

theorem withoutTag_of_named (named : tag.map fold = ['j', 's', 'o', 'n']) (text : List Char) :
    withoutTag (tag ++ text) = text := by
  have size : tag.length = 4 := by simpa using congrArg List.length named
  have enough : ¬(tag ++ text).length < 4 := by simp [size]
  have taken : (tag ++ text).take 4 = tag := List.take_left' size
  rw [withoutTag, if_neg enough, taken, if_pos named, List.drop_left' size]

theorem withoutTag_append (isTag : IsTag tag) (other : ∀ c ∈ text.head?, fold c ≠ 'j') :
    withoutTag (tag ++ text) = text := by
  obtain rfl | named := isTag
  · exact withoutTag_of_head other
  · exact withoutTag_of_named named text

-- ---------------------------------------------------------------------------
-- Fences
-- ---------------------------------------------------------------------------

theorem withoutFence_fenced (lead : ∀ c ∈ before, isBlank c = true)
    (trail : ∀ c ∈ after, isBlank c = true) (inner : List Char) :
    withoutFence (before ++ (fence ++ inner ++ fence) ++ after) = strip (withoutTag inner) := by
  have stripped : strip (before ++ (fence ++ inner ++ fence) ++ after) = fence ++ inner ++ fence :=
    Text.trimBy_between lead trail ⟨'`', _, rfl, by decide⟩
      ⟨fence ++ inner ++ ['`', '`'], '`', by simp [fence], by decide⟩
  have opened : fence.isPrefixOf (fence ++ inner ++ fence) = true := by
    rw [List.isPrefixOf_iff_prefix, List.append_assoc]
    exact List.prefix_append _ _
  have closed : fence.isSuffixOf (fence ++ inner ++ fence) = true := by
    rw [List.isSuffixOf_iff_suffix]
    exact List.suffix_append _ _
  have size : (fence ++ inner ++ fence).length = inner.length + 6 := by
    simp [fence]
  have marks : fence.length = 3 := rfl
  have inside : ((fence ++ inner ++ fence).drop 3).take inner.length = inner := by
    rw [List.append_assoc, List.drop_left' marks, List.take_left' rfl]
  rw [withoutFence, stripped, opened, closed, size, Nat.add_sub_cancel, inside,
    if_pos (by simp)]

/-- A text that is JSON comes down to the piece that is its value, whatever
white space is around it. -/
theorem exists_bare (h : Json.read text = .ok found) :
    ∃ piece, Json.IsBare piece ∧ Json.read piece = .ok found ∧
      (∀ c ∈ text.head?, isBlank c = true ∨ Json.opensValue c = true) ∧
      ∀ before after, (∀ c ∈ before, isBlank c = true) → (∀ c ∈ after, isBlank c = true) →
        strip (before ++ text ++ after) = piece := by
  obtain ⟨inBefore, piece, inAfter, rfl, blankBefore, blankAfter, bare, same⟩ :=
    Json.readWithin_piece h
  obtain ⟨c, rest, begins, opens⟩ := bare.opens
  obtain ⟨init, d, ends, ink⟩ := bare.closes
  refine ⟨piece, bare, same, fun first isFirst => ?_, fun before after lead trail => ?_⟩
  · cases inBefore with
    | nil =>
      rw [begins] at isFirst
      cases isFirst
      exact .inr opens
    | cons space spaces =>
      cases isFirst
      exact .inl (blankBefore _ List.mem_cons_self)
  · have regrouped : before ++ (inBefore ++ piece ++ inAfter) ++ after =
        (before ++ inBefore) ++ piece ++ (inAfter ++ after) := by simp
    rw [regrouped]
    exact Text.trimBy_between (List.forall_mem_append.mpr ⟨lead, blankBefore⟩)
      (List.forall_mem_append.mpr ⟨blankAfter, trail⟩)
      ⟨c, rest, begins, Json.isBlank_of_isInk (Json.isInk_of_opensValue opens)⟩
      ⟨init, d, ends, Json.isBlank_of_isInk ink⟩

/-- With white space around it, a text that is JSON is the same JSON when a
fence around it would have been taken off: there is none. -/
theorem read_withoutFence_between (h : Json.read text = .ok found)
    (lead : ∀ c ∈ before, isBlank c = true) (trail : ∀ c ∈ after, isBlank c = true) :
    Json.read (withoutFence (before ++ text ++ after)) = .ok found := by
  obtain ⟨piece, bare, same, -, strips⟩ := exists_bare h
  obtain ⟨c, rest, begins, opens⟩ := bare.opens
  have noFence : fence.isPrefixOf piece = false := by
    have other : c ≠ '`' := by
      rintro rfl
      exact absurd opens (by decide)
    rw [begins]
    simp [fence, List.isPrefixOf, other.symm]
  rw [withoutFence, strips before after lead trail, noFence, Bool.and_false, Bool.false_and]
  exact same

theorem read_withoutFence_fenced (h : Json.read text = .ok found) (isTag : IsTag tag)
    (lead : ∀ c ∈ before, isBlank c = true) (gap : ∀ c ∈ opening, isBlank c = true)
    (rest : ∀ c ∈ closing, isBlank c = true) (trail : ∀ c ∈ after, isBlank c = true) :
    Json.read (withoutFence
      (before ++ (fence ++ (tag ++ (opening ++ text ++ closing)) ++ fence) ++ after)) =
        .ok found := by
  obtain ⟨piece, -, same, begins, strips⟩ := exists_bare h
  have other : ∀ c ∈ (opening ++ text ++ closing).head?, fold c ≠ 'j' := by
    have blank {c : Char} (space : isBlank c = true) : fold c ≠ 'j' := by
      rw [Text.fold_of_isBlank space]
      rintro rfl
      exact absurd space (by decide)
    intro c first
    rw [List.append_assoc, List.head?_append, List.head?_append, Option.mem_def] at first
    obtain first | ⟨-, first⟩ := Option.or_eq_some_iff.mp first
    · exact blank (gap c (List.mem_of_mem_head? first))
    · obtain first | ⟨-, first⟩ := Option.or_eq_some_iff.mp first
      · exact (begins c first).elim blank fold_ne_of_opensValue
      · exact blank (rest c (List.mem_of_mem_head? first))
  rw [withoutFence_fenced lead trail, withoutTag_append isTag other,
    strips opening closing gap rest]
  exact same

-- ---------------------------------------------------------------------------
-- Texts
-- ---------------------------------------------------------------------------

def IsBlankText (text : String) : Prop := ∀ c ∈ text.toList, isBlank c = true

instance (text : String) : Decidable (IsBlankText text) :=
  decidable_of_iff (text.toList.all isBlank = true) List.all_eq_true

/-- A text that is JSON holds the same value with white space around it and in a
fence, whatever its strings hold. -/
theorem parse_between_fences (h : Json.read text.toList = .ok found)
    (lead : IsBlankText before) (gap : IsBlankText opening) (rest : IsBlankText closing)
    (trail : IsBlankText after) (isTag : IsTag tag.toList) (source : String) :
    parse source (.str (before ++ text ++ after)) = .ok found ∧
      parse source (.str (before ++ "```" ++ tag ++ opening ++ text ++ closing ++ "```" ++ after)) =
        .ok found := by
  rw [parse_eq_ok, parse_eq_ok]
  constructor
  · rw [String.toList_append, String.toList_append]
    exact read_withoutFence_between h lead trail
  · have fenced := read_withoutFence_fenced h isTag lead gap rest trail
    simp only [String.toList_append, List.append_assoc] at fenced ⊢
    exact fenced

/-- A string that holds a fence with its tag, in a fence of its own. -/
theorem parse_between_fences_nested :
    Json.read "[\"```json\"]".toList = .ok (.arr [.str "```json"]) ∧ IsTag "JsOn".toList ∧
      parse "OpenAI" (.str ("\n" ++ "[\"```json\"]" ++ "\t")) = .ok (.arr [.str "```json"]) ∧
      parse "OpenAI"
        (.str ("\n" ++ "```" ++ "JsOn" ++ "\u00a0 " ++ "[\"```json\"]" ++ "\n" ++ "```" ++ "\t")) =
          .ok (.arr [.str "```json"]) := by
  have read : Json.read "[\"```json\"]".toList = .ok (.arr [.str "```json"]) := by cbv
  have isTag : IsTag "JsOn".toList := .inr (by decide)
  have lead : IsBlankText "\n" := by decide
  have gap : IsBlankText "\u00a0 " := by decide
  have trail : IsBlankText "\t" := by decide
  exact ⟨read, isTag, parse_between_fences read lead gap lead trail isTag "OpenAI"⟩

end PatchReview.Payload
