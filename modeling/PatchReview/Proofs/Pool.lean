import Mathlib.Data.List.Basic
import PatchReview.Pool
import PatchReview.Proofs.Action

/-!
# Pools answer in the order of the jobs

If every job gives an answer that does not depend on the state, a pool gives
the answers of all jobs in their order, whatever the number of workers and the
order in which they finish (`answers_map`). A pool keeps what every job keeps.
-/

namespace PatchReview.Pool

open PatchReview.Action (Answers Keeps)

theorem range_filterMap_getElem? (l : List α) :
    ((List.range l.length).filterMap fun i => l[i]?) = l := by
  induction l with
  | nil => rfl
  | cons a l ih => simp [List.range_succ_eq_map, List.filterMap_map, ih]

/-- A position that was finished is found with its result, and no other one. -/
theorem lookup_filterMap (f : Nat → Option β) (order : List Nat) (i : Nat) :
    (order.filterMap fun j => (f j).map (j, ·)).lookup i = if i ∈ order then f i else none := by
  induction order with
  | nil => rfl
  | cons j order ih =>
    by_cases same : i = j
    · subst same
      cases h : f i with
      | none => simp [h, ih]
      | some b => simp [h]
    · have apart : (i == j) = false := beq_false_of_ne same
      cases h : f j with
      | none => simp [h, ih, same]
      | some b => simp [h, ih, same, apart, List.lookup_cons]

theorem filterMap_lookup (pool : Pool) (inputs : List α) (g : α → β) :
    (List.range inputs.length).filterMap (fun i =>
      ((pool.order inputs.length).filterMap fun j => (inputs[j]?.map g).map (j, ·)).lookup i) =
      inputs.map g := by
  have every : ∀ i ∈ List.range inputs.length, i ∈ pool.order inputs.length :=
    fun i hi => (pool.order_perm inputs.length).mem_iff.mpr hi
  rw [← range_filterMap_getElem? (inputs.map g), List.length_map]
  refine List.filterMap_congr fun i hi => ?_
  rw [lookup_filterMap, if_pos (every i hi), List.getElem?_map]

section
variable {job : α → Action σ β} {g : α → β} (inputs : List α)

theorem answers_each (h : ∀ a, Answers (job a) (g a)) :
    Answers (each job inputs) (inputs.map g) := by
  induction inputs with
  | nil => exact .pure _
  | cons a rest ih => exact (h a).bind (ih.bind (.pure _))

theorem answers_finish (h : ∀ a, Answers (job a) (g a)) (order : List Nat) :
    Answers (finish job inputs order)
      (order.filterMap fun i => (inputs[i]?.map g).map (i, ·)) := by
  induction order with
  | nil => exact .pure _
  | cons i order ih =>
    cases found : inputs[i]? with
    | none => simpa [finish, found] using ih
    | some a =>
      simp only [finish, found, List.filterMap_cons, Option.map_some]
      exact (h a).bind (ih.bind (.pure _))

theorem answers_map (pool : Pool) (h : ∀ a, Answers (job a) (g a)) :
    Answers (pool.map job inputs) (inputs.map g) := by
  unfold map
  split
  · exact answers_each inputs h
  · refine (answers_finish inputs h _).bind ?_
    rw [filterMap_lookup]
    exact .pure _

end

section
variable {part : σ → τ} {job : α → Action σ β}

theorem keeps_each (h : ∀ a, Keeps part (job a)) (inputs : List α) :
    Keeps part (each job inputs) := by
  induction inputs with
  | nil => exact .pure _
  | cons a rest ih => exact (h a).bind fun _ => ih.bind fun _ => .pure _

theorem keeps_finish (h : ∀ a, Keeps part (job a)) (inputs : List α) (order : List Nat) :
    Keeps part (finish job inputs order) := by
  induction order with
  | nil => exact .pure _
  | cons i order ih =>
    unfold finish
    split
    · exact ih
    · exact (h _).bind fun _ => ih.bind fun _ => .pure _

theorem keeps_map (pool : Pool) (h : ∀ a, Keeps part (job a)) (inputs : List α) :
    Keeps part (pool.map job inputs) := by
  unfold map
  split
  · exact keeps_each h inputs
  · exact (keeps_finish h inputs _).bind fun _ => .pure _

end

end PatchReview.Pool
