import PatchReview.Action

/-!
# Pools of workers

Several workers may finish their jobs in any order. The results come in the
order of the jobs all the same; only what the jobs did to the state shows in
which order they were finished.
-/

namespace PatchReview

/-- A number of workers, and the order in which they finish so many jobs. -/
structure Pool where
  workers : Int
  order : Nat → List Nat
  order_perm : ∀ jobs, (order jobs).Perm (List.range jobs)

namespace Pool

/-- Workers that finish jobs in the order in which they are given. -/
def inOrder (workers : Int) : Pool := ⟨workers, List.range, fun _ => .refl _⟩

def isSequential (pool : Pool) (jobs : Nat) : Bool := pool.workers ≤ 1 || jobs ≤ 1

def each (job : α → Action σ β) : List α → Action σ (List β)
  | [] => return []
  | input :: rest => do
    let result ← job input
    let others ← each job rest
    return result :: others

/-- The results of the jobs at some positions, with their positions. -/
def finish (job : α → Action σ β) (inputs : List α) : List Nat → Action σ (List (Nat × β))
  | [] => return []
  | position :: rest =>
    match inputs[position]? with
    | none => finish job inputs rest
    | some input => do
      let result ← job input
      let others ← finish job inputs rest
      return (position, result) :: others

def map (pool : Pool) (job : α → Action σ β) (inputs : List α) : Action σ (List β) :=
  if pool.isSequential inputs.length then each job inputs
  else do
    let finished ← finish job inputs (pool.order inputs.length)
    return (List.range inputs.length).filterMap fun position => finished.lookup position

end Pool

end PatchReview
