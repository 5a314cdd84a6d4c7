/-!
# The first and the last separator

What holds no separator and begins a text stands before the first one in it. So the
parts before and after the first separator, or the last one, can be told from the whole.
-/

namespace PatchReview

variable {separator : α} {before after seen others rest : List α}

theorem exists_left_of_append (free : separator ∉ seen)
    (h : before ++ separator :: after = seen ++ rest) :
    ∃ left, before = seen ++ left ∧ rest = left ++ separator :: after := by
  rcases List.append_eq_append_iff.mp h with ⟨more, rfl, whole⟩ | ⟨left, rfl, whole⟩
  · cases more with
    | nil => exact ⟨[], by simp, by simpa using whole.symm⟩
    | cons c more =>
      obtain ⟨rfl, -⟩ := List.cons.inj whole
      simp at free
  · exact ⟨left, rfl, whole⟩

theorem exists_right_of_append (free : separator ∉ seen)
    (h : before ++ separator :: after = rest ++ seen) :
    ∃ right, rest = before ++ separator :: right ∧ after = right ++ seen := by
  rcases List.append_eq_append_iff.mp h with ⟨more, rfl, whole⟩ | ⟨left, rfl, rfl⟩
  · cases more with
    | nil =>
      obtain rfl : separator :: after = seen := by simpa using whole
      simp at free
    | cons c more =>
      obtain ⟨rfl, rfl⟩ := List.cons.inj whole
      exact ⟨more, rfl, rfl⟩
  · simp at free

theorem append_cons_inj_of_notMem_left (hb : separator ∉ before) (ho : separator ∉ others)
    (h : before ++ separator :: after = others ++ separator :: rest) :
    before = others ∧ after = rest := by
  obtain ⟨left, rfl, whole⟩ := exists_left_of_append ho h
  cases left with
  | nil => simpa using whole.symm
  | cons c left =>
    obtain ⟨rfl, -⟩ := List.cons.inj whole
    simp at hb

theorem append_cons_inj_of_notMem_right (ha : separator ∉ after) (hr : separator ∉ rest)
    (h : before ++ separator :: after = others ++ separator :: rest) :
    before = others ∧ after = rest := by
  have reversed := congrArg List.reverse h
  simp only [List.reverse_append, List.reverse_cons, List.append_assoc, List.singleton_append]
    at reversed
  obtain ⟨same, sameToo⟩ := append_cons_inj_of_notMem_left (by simpa) (by simpa) reversed
  exact ⟨List.reverse_inj.mp sameToo, List.reverse_inj.mp same⟩

end PatchReview
