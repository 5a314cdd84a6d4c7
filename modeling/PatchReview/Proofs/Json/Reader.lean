import PatchReview.Proofs.Json.Token

/-!
# What the reader takes for a value

An array or object is read in one piece like a number: again before any
shorter rest, and with fuel of twice its length, since its brackets are two
characters and cost two units at most (`Piece`). Both are read alike between
their brackets (`bracketed`). So a text that is JSON is one piece between white
space, and that piece by itself is the same JSON (`readWithin_piece`). It begins
and ends with characters that no stripping takes off.
-/

namespace PatchReview.Json

open Text (isBlank)

variable {α β γ : Type} {text short left : List Char}

-- ---------------------------------------------------------------------------
-- Values that hold others
-- ---------------------------------------------------------------------------

/-- The piece that a reader with fuel takes off a text, up to a visible
character. -/
structure Piece (read : Nat → List Char → Except ReadFault (α × List Char)) (text : List Char)
    (found : α) (used left : List Char) : Prop where
  split : text = used ++ left
  closes : ∃ before c, used = before ++ [c] ∧ isInk c = true
  again : ∀ short, short <+: left → ∀ fuel, 2 * used.length ≤ fuel →
    read fuel (used ++ short) = .ok (found, short)

section Piece

variable {read : Nat → List Char → Except ReadFault (α × List Char)} {found : α}
  {contents : Nat → List Char → Except ReadFault (β × List Char)} {inside : β}

theorem Piece.length_pos (piece : Piece read text found used left) : 0 < used.length := by
  obtain ⟨before, c, rfl, -⟩ := piece.closes
  simp

theorem Piece.shortened (piece : Piece read text found used left) (cut : short <+: left) :
    used ++ short <+: text := by
  rw [piece.split]
  exact (List.prefix_append_right_inj used).mpr cut

theorem Piece.head?_append (piece : Piece read text found used left) (short : List Char) :
    (used ++ short).head? = text.head? := by
  obtain ⟨before, c, rfl, -⟩ := piece.closes
  rw [piece.split]
  cases before <;> rfl

def bracketed (closer : Char) (wrap : List β → α)
    (contents : Nat → List Char → Except ReadFault (List β × List Char)) (fuel : Nat)
    (rest : List Char) : Except ReadFault (α × List Char) :=
  if (skipSpace rest).head? = some closer then .ok (wrap [], (skipSpace rest).tail)
  else do
    let (inside, left) ← contents fuel (skipSpace rest)
    return (wrap inside, left)

section

variable {closer : Char} {wrap : List β → α} {inside : List β}
  {contents : Nat → List Char → Except ReadFault (List β × List Char)}

theorem bracketed_of_empty (inner : skipSpace rest = closer :: left) (fuel : Nat) :
    bracketed closer wrap contents fuel rest = .ok (wrap [], left) := by
  simp [bracketed, inner]

theorem bracketed_of_contents (other : (skipSpace rest).head? ≠ some closer)
    (read : contents fuel (skipSpace rest) = .ok (inside, left)) :
    bracketed closer wrap contents fuel rest = .ok (wrap inside, left) := by
  rw [bracketed, if_neg other, read]
  rfl

theorem bracketed_eq_ok (h : bracketed closer wrap contents fuel rest = .ok (found, left)) :
    (skipSpace rest = closer :: left ∧ found = wrap []) ∨
      (skipSpace rest).head? ≠ some closer ∧
        ∃ inside, contents fuel (skipSpace rest) = .ok (inside, left) ∧ found = wrap inside := by
  unfold bracketed at h
  split at h
  · next first =>
    obtain ⟨after, same⟩ := List.head?_eq_some_iff.mp first
    rw [same] at h
    cases h
    exact .inl ⟨same, rfl⟩
  · next other =>
    obtain ⟨⟨inside, _⟩, read, h⟩ := bind_eq_ok.mp h
    cases pure_eq_ok.mp h
    exact .inr ⟨other, inside, read, rfl⟩

variable {opener : Char}

theorem piece_of_empty (ink : isInk closer = true) (inner : skipSpace rest = closer :: left)
    (reads : ∀ fuel rest,
      read (fuel + 1) (opener :: rest) = bracketed closer wrap contents fuel rest) :
    ∃ used, Piece read (opener :: rest) (wrap []) (opener :: used) left := by
  obtain ⟨spaces, rfl, skip⟩ := skipSpace_cons inner
  refine ⟨spaces ++ [closer], by simp, ⟨opener :: spaces, closer, rfl, ink⟩, ?_⟩
  intro short cut fuel enough
  obtain ⟨fuel, rfl⟩ : ∃ n, fuel = n + 1 := ⟨fuel - 1, by simp at enough; omega⟩
  rw [List.cons_append, List.append_assoc, reads]
  exact bracketed_of_empty (skip short cut) fuel

theorem piece_of_contents (other : (skipSpace rest).head? ≠ some closer)
    (piece : Piece contents (skipSpace rest) inside used left)
    (reads : ∀ fuel rest,
      read (fuel + 1) (opener :: rest) = bracketed closer wrap contents fuel rest) :
    ∃ used, Piece read (opener :: rest) (wrap inside) (opener :: used) left := by
  obtain ⟨spaces, split, skip⟩ := skipSpace_skips rest
  obtain ⟨before, c, ends, ink⟩ := piece.closes
  refine ⟨spaces ++ used, ?_, ⟨opener :: spaces ++ before, c, ?_, ink⟩, ?_⟩
  · conv => lhs; rw [split, piece.split]
    simp
  · rw [ends]
    simp
  · intro short cut fuel enough
    simp only [List.length_cons, List.length_append] at enough
    obtain ⟨fuel, rfl⟩ : ∃ n, fuel = n + 1 := ⟨fuel - 1, by omega⟩
    have skipped := skip (used ++ short) (piece.shortened cut)
    rw [List.cons_append, List.append_assoc, reads]
    refine bracketed_of_contents ?_ ?_
    · rw [skipped, piece.head?_append]
      exact other
    · rw [skipped]
      exact piece.again short cut fuel (by omega)

theorem piece_of_bracketed (ink : isInk closer = true)
    (h : bracketed closer wrap contents fuel rest = .ok (found, left))
    (takes : ∀ text inside left, contents fuel text = .ok (inside, left) →
      ∃ used, Piece contents text inside used left)
    (reads : ∀ fuel rest,
      read (fuel + 1) (opener :: rest) = bracketed closer wrap contents fuel rest) :
    ∃ used, Piece read (opener :: rest) found (opener :: used) left := by
  obtain ⟨inner, rfl⟩ | ⟨other, inside, readInside, rfl⟩ := bracketed_eq_ok h
  · exact piece_of_empty ink inner reads
  · obtain ⟨_, piece⟩ := takes _ _ _ readInside
    exact piece_of_contents other piece reads

end

theorem piece_of_last (closer : Char) (ink : isInk closer = true)
    (element : Piece contents text inside used rest) (close : skipSpace rest = closer :: left)
    (reads : ∀ fuel text rest left, contents fuel text = .ok (inside, rest) →
      skipSpace rest = closer :: left → read (fuel + 1) text = .ok (found, left)) :
    ∃ used, Piece read text found used left := by
  obtain ⟨spaces, rfl, skip⟩ := skipSpace_cons close
  refine ⟨used ++ (spaces ++ [closer]), ?_, ⟨used ++ spaces, closer, by simp, ink⟩, ?_⟩
  · rw [element.split]
    simp
  · intro short cut fuel enough
    obtain ⟨fuel, rfl⟩ : ∃ n, fuel = n + 1 := ⟨fuel - 1, by simp at enough; omega⟩
    simp only [List.length_append, List.length_singleton] at enough
    rw [List.append_assoc, List.append_assoc]
    refine reads _ _ _ _ (element.again _ ?_ fuel (by omega)) (skip short cut)
    exact (List.prefix_append_right_inj spaces).mpr (List.cons_prefix_cons.mpr ⟨rfl, cut⟩)

theorem piece_of_more {others : Nat → List Char → Except ReadFault (γ × List Char)} {further : γ}
    (element : Piece contents text inside used rest) (comma : skipSpace rest = ',' :: more)
    (tail : Piece others (skipSpace more) further usedAfter left)
    (reads : ∀ fuel text rest more left, contents fuel text = .ok (inside, rest) →
      skipSpace rest = ',' :: more → others fuel (skipSpace more) = .ok (further, left) →
      read (fuel + 1) text = .ok (found, left)) :
    ∃ used, Piece read text found used left := by
  obtain ⟨gap, rfl, skip⟩ := skipSpace_delimiter comma
  obtain ⟨before, c, ends, ink⟩ := tail.closes
  refine ⟨used ++ (gap ++ usedAfter), ?_, ⟨used ++ (gap ++ before), c, ?_, ink⟩, ?_⟩
  · rw [element.split, tail.split]
    simp
  · rw [ends]
    simp
  · intro short cut fuel enough
    simp only [List.length_append] at enough
    have := element.length_pos
    have := tail.length_pos
    obtain ⟨fuel, rfl⟩ : ∃ n, fuel = n + 1 := ⟨fuel - 1, by omega⟩
    obtain ⟨after, comma, skipped⟩ := skip (usedAfter ++ short) (tail.shortened cut)
    rw [List.append_assoc, List.append_assoc]
    refine reads _ _ _ _ _ (element.again _ ?_ fuel (by omega)) comma ?_
    · exact (List.prefix_append_right_inj gap).mpr (tail.shortened cut)
    · rw [skipped]
      exact tail.again short cut fuel (by omega)

end Piece

def ValuesTake (fuel : Nat) : Prop :=
  ∀ room text found left, value fuel room text = .ok (found, left) →
    ∃ c used, opensValue c = true ∧ Piece (value · room) text found (c :: used) left

def ItemsTake (fuel : Nat) : Prop :=
  ∀ room text found left, items fuel room text = .ok (found, left) →
    ∃ used, Piece (items · room) text found used left

def MembersTake (fuel : Nat) : Prop :=
  ∀ room before text found left, members fuel room before text = .ok (found, left) →
    ∃ used, Piece (members · room before) text found used left

theorem value_array (fuel room : Nat) (rest : List Char) :
    value (fuel + 1) (room + 1) ('[' :: rest) = bracketed ']' Json.arr (items · room) fuel rest := by
  rw [value, bracketed]
  split
  · next inner => simp [inner]
  · next other => rw [if_neg fun first => (List.head?_eq_some_iff.mp first).elim other]

theorem value_object (fuel room : Nat) (rest : List Char) :
    value (fuel + 1) (room + 1) ('\x7b' :: rest) =
      bracketed '\x7d' Json.obj (members · room []) fuel rest := by
  rw [value, bracketed]
  split
  · next inner => simp [inner]
  · next other => rw [if_neg fun first => (List.head?_eq_some_iff.mp first).elim other]

theorem value_scalar (noQuote : c ≠ '"') (noArray : c ≠ '[') (noObject : c ≠ '\x7b')
    (fuel room : Nat) (rest : List Char) :
    value (fuel + 1) room (c :: rest) = scalar (c :: rest) := by
  unfold value
  split
  case h_1 same => exact absurd (List.cons.inj same).1 noQuote
  case h_2 same => exact absurd (List.cons.inj same).1 noArray
  case h_3 same => exact absurd (List.cons.inj same).1 noObject
  case h_4 same => exact absurd (List.cons.inj same).1 noArray
  case h_5 same => exact absurd (List.cons.inj same).1 noObject
  case h_6 => rfl

theorem piece_of_string (h : string rest = .ok (parts, left)) (room : Nat) :
    ∃ used, Piece (value · room) ('"' :: rest) (.str (textOf parts)) ('"' :: used) left := by
  obtain ⟨used, rfl, again⟩ := string_takes h
  refine ⟨used ++ ['"'], by simp, ⟨'"' :: used, '"', rfl, by decide⟩, ?_⟩
  intro short cut fuel enough
  obtain ⟨fuel, rfl⟩ : ∃ n, fuel = n + 1 := ⟨fuel - 1, by simp at enough; omega⟩
  simp [value, again]

theorem piece_of_scalar (noQuote : c ≠ '"') (noArray : c ≠ '[') (noObject : c ≠ '\x7b')
    (h : scalar (c :: rest) = .ok (found, left)) (room : Nat) :
    opensValue c = true ∧ ∃ used, Piece (value · room) (c :: rest) found (c :: used) left := by
  obtain ⟨_, used, opens, split, ink, again⟩ := scalar_takes h
  cases split
  have last := (List.dropLast_concat_getLast (List.cons_ne_nil c used)).symm
  refine ⟨opens, used, rfl, ⟨_, _, last, ink _ (List.getLast_mem _)⟩, fun short cut fuel enough => ?_⟩
  obtain ⟨fuel, rfl⟩ : ∃ n, fuel = n + 1 := ⟨fuel - 1, by simp at enough; omega⟩
  rw [← again short cut]
  exact value_scalar noQuote noArray noObject fuel room _

theorem valuesTake_succ (itemsTake : ItemsTake fuel) (membersTake : MembersTake fuel) :
    ValuesTake (fuel + 1) := by
  intro room text found left h
  cases text with
  | nil => cases h
  | cons c rest =>
    by_cases quote : c = '"'
    · subst quote
      obtain ⟨⟨parts, _⟩, read, h⟩ := bind_eq_ok.mp h
      cases pure_eq_ok.mp h
      obtain ⟨used, piece⟩ := piece_of_string read room
      exact ⟨'"', used, by decide, piece⟩
    by_cases array : c = '['
    · subst array
      cases room with
      | zero => cases h
      | succ room =>
        rw [value_array] at h
        obtain ⟨used, piece⟩ : ∃ used,
            Piece (value · (room + 1)) ('[' :: rest) found ('[' :: used) left :=
          piece_of_bracketed (by decide) h (itemsTake room) (value_array · room)
        exact ⟨'[', used, by decide, piece⟩
    by_cases object : c = '\x7b'
    · subst object
      cases room with
      | zero => cases h
      | succ room =>
        rw [value_object] at h
        obtain ⟨used, piece⟩ : ∃ used,
            Piece (value · (room + 1)) ('\x7b' :: rest) found ('\x7b' :: used) left :=
          piece_of_bracketed (by decide) h (membersTake room []) (value_object · room)
        exact ⟨'\x7b', used, by decide, piece⟩
    · rw [value_scalar quote array object] at h
      obtain ⟨opens, used, piece⟩ := piece_of_scalar quote array object h room
      exact ⟨c, used, opens, piece⟩

theorem itemsTake_succ (valuesTake : ValuesTake fuel) (itemsTake : ItemsTake fuel) :
    ItemsTake (fuel + 1) := by
  intro room text found left h
  unfold items at h
  obtain ⟨⟨first, rest⟩, read, h⟩ := bind_eq_ok.mp h
  obtain ⟨_, _, -, element⟩ := valuesTake _ _ _ _ read
  dsimp only at h
  split at h
  · next close =>
    cases pure_eq_ok.mp h
    refine piece_of_last ']' (by decide) element close fun fuel text rest left read close => ?_
    simp only [items, read, bind, Except.bind, close]
    rfl
  · next comma =>
    obtain ⟨⟨others, _⟩, readOthers, h⟩ := bind_eq_ok.mp h
    cases pure_eq_ok.mp h
    obtain ⟨_, tail⟩ := itemsTake _ _ _ _ readOthers
    refine piece_of_more element comma tail fun fuel text rest more left read comma others => ?_
    simp only [items, read, bind, Except.bind, comma, others]
    rfl
  · cases h

def namedValue (fuel room : Nat) (text : List Char) :
    Except ReadFault ((String × Json) × List Char) :=
  match text with
  | '"' :: rest => do
    let (name, rest) ← string rest
    match skipSpace rest with
    | ':' :: rest =>
      let (found, rest) ← value fuel room (skipSpace rest)
      return ((textOf name, found), rest)
    | rest => .error (.grammar .colon rest.length)
  | text => .error (.grammar .propertyName text.length)

theorem members_eq (fuel room : Nat) (before : List (String × Json)) (text : List Char) :
    members (fuel + 1) room before text = (do
      let ((name, found), rest) ← namedValue fuel room text
      match skipSpace rest with
      | '\x7d' :: left => return (putField name found before, left)
      | ',' :: rest => members fuel room (putField name found before) (skipSpace rest)
      | rest => .error (.grammar .comma rest.length)) := by
  conv => lhs; unfold members
  split
  · next rest =>
    simp only [namedValue]
    cases string rest with
    | error fault => rfl
    | ok named =>
      simp only [bind, Except.bind]
      rcases skipSpace named.2 with _ | ⟨c, more⟩
      · rfl
      · by_cases colon : c = ':'
        · simp only [colon]
          cases value fuel room (skipSpace more) <;> rfl
        · -- Without a colon the member is no member either.
          have other : ∀ rest, c :: more = ':' :: rest → False := fun rest same =>
            colon (List.cons.inj same).1
          simp only
  · next other =>
    unfold namedValue
    split
    · next rest => exact absurd rfl (other rest)
    · rfl

theorem namedValue_takes (valuesTake : ValuesTake fuel)
    (h : namedValue fuel room text = .ok (found, left)) :
    ∃ used, Piece (namedValue · room) text found used left := by
  unfold namedValue at h
  split at h
  · next rest =>
    obtain ⟨⟨name, afterName⟩, readName, h⟩ := bind_eq_ok.mp h
    dsimp only at h
    split at h
    · next colon =>
      obtain ⟨⟨first, _⟩, read, h⟩ := bind_eq_ok.mp h
      cases pure_eq_ok.mp h
      obtain ⟨name, rfl, nameAgain⟩ := string_takes readName
      obtain ⟨gap, rfl, skip⟩ := skipSpace_delimiter colon
      obtain ⟨d, front, -, piece⟩ := valuesTake _ _ _ _ read
      obtain ⟨before, c, ends, ink⟩ := piece.closes
      refine ⟨'"' :: (name ++ '"' :: (gap ++ d :: front)), ?_,
        ⟨'"' :: (name ++ '"' :: (gap ++ before)), c, ?_, ink⟩, fun short cut fuel enough => ?_⟩
      · rw [piece.split]
        simp
      · rw [ends]
        simp
      · simp only [List.length_append, List.length_cons] at enough
        obtain ⟨after, colon, skipped⟩ := skip (d :: front ++ short) (piece.shortened cut)
        have value := piece.again short cut fuel (by simp only [List.length_cons]; omega)
        rw [← skipped] at value
        simp only [List.cons_append, List.append_assoc] at colon ⊢
        simp only [namedValue, nameAgain, bind, Except.bind, colon, value]
        rfl
    · cases h
  · cases h

theorem membersTake_succ (valuesTake : ValuesTake fuel) (membersTake : MembersTake fuel) :
    MembersTake (fuel + 1) := by
  intro room before text found left h
  rw [members_eq] at h
  obtain ⟨⟨⟨name, first⟩, rest⟩, read, h⟩ := bind_eq_ok.mp h
  obtain ⟨_, element⟩ := namedValue_takes valuesTake read
  dsimp only at h
  split at h
  · next close =>
    cases pure_eq_ok.mp h
    refine piece_of_last '\x7d' (by decide) element close fun fuel text rest left read close => ?_
    simp only [members_eq, read, bind, Except.bind, close]
    rfl
  · next comma =>
    obtain ⟨_, tail⟩ := membersTake _ _ _ _ _ h
    refine piece_of_more element comma tail fun fuel text rest more left read comma others => ?_
    simp only [members_eq, read, bind, Except.bind, comma, others]
  · cases h

theorem take (fuel : Nat) : ValuesTake fuel ∧ ItemsTake fuel ∧ MembersTake fuel := by
  induction fuel with
  | zero => exact ⟨nofun, nofun, nofun⟩
  | succ fuel ih =>
    obtain ⟨values, items, members⟩ := ih
    exact ⟨valuesTake_succ items members, itemsTake_succ values items,
      membersTake_succ values members⟩

-- ---------------------------------------------------------------------------
-- Whole texts
-- ---------------------------------------------------------------------------

/-- What is left of a text when all around its one value is taken off. -/
structure IsBare (text : List Char) : Prop where
  opens : ∃ c rest, text = c :: rest ∧ opensValue c = true
  closes : ∃ before c, text = before ++ [c] ∧ isInk c = true

theorem skipSpace_of_opens (opens : opensValue c = true) (rest : List Char) :
    skipSpace (c :: rest) = c :: rest := by
  refine List.dropWhile_cons_of_neg fun space => ?_
  have blank := isBlank_of_isInk (isInk_of_opensValue opens)
  rw [isBlank_of_isJsonSpace space] at blank
  cases blank

/-- A text that is JSON is one piece between white space, and the piece by
itself is the same JSON. -/
theorem readWithin_piece (h : readWithin room text = .ok found) :
    ∃ before piece after, text = before ++ piece ++ after ∧
      (∀ c ∈ before, isBlank c = true) ∧ (∀ c ∈ after, isBlank c = true) ∧
      IsBare piece ∧ readWithin room piece = .ok found := by
  have blank {spaces : List Char} :
      ∀ c ∈ spaces.takeWhile isJsonSpace, isBlank c = true := fun c hc =>
    isBlank_of_isJsonSpace (List.mem_takeWhile_imp hc)
  unfold readWithin at h
  split at h
  · cases h
  · obtain ⟨⟨_, rest⟩, read, h⟩ := bind_eq_ok.mp h
    obtain ⟨c, used, opens, piece⟩ := (take _).1 _ _ _ _ read
    dsimp only at h
    split at h
    · next ending =>
      cases pure_eq_ok.mp h
      refine ⟨text.takeWhile isJsonSpace, c :: used, rest, ?_, blank, ?_,
        ⟨⟨c, used, rfl, opens⟩, piece.closes⟩, ?_⟩
      · rw [List.append_assoc, ← piece.split]
        exact List.takeWhile_append_dropWhile.symm
      · have all := List.takeWhile_append_dropWhile (p := isJsonSpace) (l := rest)
        rw [show rest.dropWhile isJsonSpace = [] from ending, List.append_nil] at all
        rw [← all]
        exact blank
      · have again := piece.again [] List.nil_prefix (2 * (c :: used).length + 2) (by omega)
        rw [List.append_nil] at again
        unfold readWithin
        split
        · next mark =>
          rw [(List.cons.inj mark).1] at opens
          exact absurd opens (by decide)
        · rw [skipSpace_of_opens opens]
          simp only [again, bind, Except.bind]
          rfl
    · cases h

end PatchReview.Json
