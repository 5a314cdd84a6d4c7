import PatchReview.Proofs.Retry.Course

/-!
# Requests against their reference

A request is watched from outside while its sendings come out as a script says.
`reference` says without a loop, from the numbers in the policy, what has to be
seen and how the request has to end; `run_watched_eq_reference` says that this
is so for every policy and every script.
-/

namespace PatchReview.Retry

open PatchReview.Action (runOn_bind)

/-- What a request does that its surroundings can see. -/
inductive Observation where
  | sent (timeout : Binary64)
  | warned (line : String)
  | slept (seconds : Binary64)
  deriving DecidableEq, Repr

def Observation.isSent : Observation → Bool
  | sent _ => true
  | _ => false

def watched (policy : Policy) (label : String) : Request (List Observation) where
  policy := policy
  label := label
  sleep seconds := Action.onSecond (modify fun seen => seen ++ [.slept seconds])
  warn line := fun seen => seen ++ [.warned line]

/-- Sendings that come out one after the other as given. -/
def scripted (outcomes : Nat → Except Failure α) (timeout : Binary64) :
    Action (Progress × List Observation) α :=
  Action.onSecond (Action.ofRun fun seen =>
    (outcomes (seen.countP (·.isSent)), seen ++ [.sent timeout]))

-- ---------------------------------------------------------------------------
-- The reference
-- ---------------------------------------------------------------------------

section
variable (policy : Policy) (label : String) (outcomes : Nat → Except Failure α)

def failedAttempt (i : Nat) : List Observation :=
  .sent policy.timeout :: (transport? (outcomes i)).toList.map fun failure =>
    .warned ((watched policy label).failureLine (i + 1) failure)

def pausedAttempts (count : Nat) : List Observation :=
  (List.range count).flatMap fun i =>
    failedAttempt policy label outcomes i ++
      [.slept (policy.baseDelay.mul (.ofNat (i + 1)))]

/-- What a request comes to and what is seen of it: the first outcome that is no
failure of the transport settles it, if it is among as many as are allowed, of
which there is always one; otherwise the last failure is wrapped up. -/
def reference : Except Failure α × (Progress × List Observation) :=
  let bound := (max 1 policy.maxAttempts).toNat
  match (List.range bound).find? fun i => (transport? (outcomes i)).isNone with
  | some k =>
    (outcomes k, (⟨stageAfter (outcomes k), k + 1, errorBefore outcomes k⟩,
      pausedAttempts policy label outcomes k ++ [.sent policy.timeout]))
  | none =>
    ((outcomes (bound - 1)).mapError (.exhausted · bound),
      (⟨.failed, bound, errorBefore outcomes bound⟩,
        pausedAttempts policy label outcomes (bound - 1) ++
          failedAttempt policy label outcomes (bound - 1)))

-- ---------------------------------------------------------------------------
-- The request
-- ---------------------------------------------------------------------------

theorem pausedAttempts_succ (count : Nat) :
    pausedAttempts policy label outcomes (count + 1) =
      pausedAttempts policy label outcomes count ++ failedAttempt policy label outcomes count ++
        [.slept (policy.baseDelay.mul (.ofNat (count + 1)))] := by
  simp [pausedAttempts, List.range_succ]

theorem countP_pausedAttempts (count : Nat) :
    (pausedAttempts policy label outcomes count).countP Observation.isSent = count := by
  induction count with
  | zero => rfl
  | succ count ih =>
    have one : (failedAttempt policy label outcomes count).countP Observation.isSent = 1 := by
      unfold failedAttempt
      cases transport? (outcomes count) <;> rfl
    rw [pausedAttempts_succ, List.countP_append, List.countP_append, ih, one]
    rfl

def watchedCourse : Course (watched policy label) (scripted outcomes) where
  outcome := outcomes
  before := pausedAttempts policy label outcomes
  after i := pausedAttempts policy label outcomes i ++ [.sent policy.timeout]
  sends i := by
    simp only [scripted, Action.runOn_onSecond, Action.runOn_ofRun, countP_pausedAttempts]
    rfl
  pauses i failure h := by
    simp [watched, pausedAttempts_succ, failedAttempt, transport?_eq_some.mpr h,
      ← Policy.delayFor_natCast]

/-- A fresh request ends and is seen as the reference says. -/
theorem run_watched_eq_reference :
    ((watched policy label).run (scripted outcomes)).runOn ({}, []) =
      reference policy label outcomes := by
  simp only [reference, ← policy.attempts_eq]
  cases found : (List.range policy.attempts).find? fun i => (transport? (outcomes i)).isNone with
  | some k =>
    obtain ⟨settled, hk, failed⟩ := List.find?_range_eq_some.mp found
    have settled : transport? (outcomes k) = none := by simpa using settled
    have failed : ∀ j < k, (transport? (outcomes j)).isSome :=
      fun j hj => by simpa using failed j hj
    exact (watchedCourse policy label outcomes).run_settled (List.mem_range.mp hk) failed settled
  | none =>
    have failed : ∀ i < policy.attempts, (transport? (outcomes i)).isSome := by
      simpa [List.find?_range_eq_none, Option.isSome_iff_ne_none] using found
    have positive := policy.attempts_pos
    have count : policy.attempts - 1 + 1 = policy.attempts := by omega
    obtain ⟨failure, last⟩ := Option.isSome_iff_exists.mp (failed (policy.attempts - 1) (by omega))
    have recorded : errorBefore outcomes policy.attempts = some failure := by
      rw [← count]
      exact last
    simp only [transport?_eq_some.mp last, recorded, failedAttempt, count]
    refine ((watchedCourse policy label outcomes).run_exhausted
      (fun j hj => failed j (Nat.lt_of_lt_pred hj)) (transport?_eq_some.mp last)).trans ?_
    simp [retryingAt, count, watchedCourse, watched, transport?]
    rfl

end

/-- A request with three attempts. The transport fails the first two of them,
and the third as well or not. -/
theorem run_watched_thrice :
    let late : TransportFailure := .stated true "late" none none
    let outcomes (last : Except Failure Nat) (i : Nat) : Except Failure Nat :=
      if i = 2 then last else .error (.transport late)
    let seen : List Observation :=
      [.sent (.ofNat 30), .warned "LLM request attempt 1 failed: late", .slept (.ofNat 1),
        .sent (.ofNat 30), .warned "LLM request attempt 2 failed: late", .slept (.ofNat 2),
        .sent (.ofNat 30)]
    let request := watched { maxAttempts := 3 } "LLM"
    (request.run (scripted (outcomes (.ok 5)))).runOn ({}, []) =
        (.ok 5, (⟨.succeeded, 3, some late⟩, seen)) ∧
      (request.run (scripted (outcomes (.error (.transport late))))).runOn ({}, []) =
        (.error (.exhausted (.transport late) 3), (⟨.failed, 3, some late⟩,
          seen ++ [.warned "LLM request attempt 3 failed: late"])) := by
  intro late outcomes seen request
  rw [run_watched_eq_reference, run_watched_eq_reference]
  exact ⟨rfl, rfl⟩

end PatchReview.Retry
