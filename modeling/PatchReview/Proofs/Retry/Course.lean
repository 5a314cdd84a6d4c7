import PatchReview.Proofs.Action
import PatchReview.Retry

/-!
# The course of a request

A course says how each attempt of a request comes out and which state it finds
and leaves. The outcomes alone decide where the request ends: at the first that
is no failure of the transport (`Course.run_settled`), or, if the attempts run
out before there is one, at the last failure (`Course.run_exhausted`). Attempts
are counted from zero here, and from one in what is logged and paused.
-/

namespace PatchReview.Retry

open PatchReview.Action (runOn_bind)

def transport? : Except Failure α → Option TransportFailure
  | .error (.transport failure) => some failure
  | _ => none

/-- The error that is on record when an attempt begins. -/
def errorBefore (outcome : Nat → Except Failure α) : Nat → Option TransportFailure
  | 0 => none
  | i + 1 => transport? (outcome i)

theorem transport?_eq_some {outcome : Except Failure α} {failure : TransportFailure} :
    transport? outcome = some failure ↔ outcome = .error (.transport failure) := by
  unfold transport?
  split <;> simp_all

def Request.failureLine (request : Request σ) (attempt : Nat) (failure : TransportFailure) :
    String :=
  s!"{request.label} request attempt {attempt} failed: {failure.message}"

def requestingAt (outcome : Nat → Except Failure α) (i : Nat) : Progress :=
  ⟨.requesting, i + 1, errorBefore outcome i⟩

def retryingAt (i : Nat) (failure : TransportFailure) : Progress := ⟨.retrying, i + 1, some failure⟩

def stageAfter : Except Failure α → Stage
  | .ok _ => .succeeded
  | .error _ => .failed

/-- What a request comes to when its last attempt, of so many, came out like this. -/
def concluded (outcome : Except Failure α) (attempts : Nat) : Except Failure α :=
  match outcome with
  | .error (.transport failure) => .error (.exhausted (.transport failure) attempts)
  | outcome => outcome

theorem concluded_of_settled (h : transport? outcome = none) : concluded outcome n = outcome := by
  unfold concluded
  split
  · cases h
  · rfl

theorem Policy.attempts_eq (policy : Policy) :
    policy.attempts = (max 1 policy.maxAttempts).toNat := rfl

theorem Policy.attempts_pos (policy : Policy) : 0 < policy.attempts := by
  rw [policy.attempts_eq]
  omega

theorem Policy.delayFor_natCast (policy : Policy) (attempt : Nat) :
    policy.delayFor attempt = policy.baseDelay.mul (.ofNat attempt) := by
  have counted : ¬ (attempt : Int) < 0 := Int.not_lt.mpr (Int.natCast_nonneg attempt)
  simp [Policy.delayFor, Binary64.ofNat, counted]

/-- A fresh request ends as its attempts do, except that a failure of the
transport is wrapped up. -/
theorem Request.runOn_run (request : Request σ) (send : Binary64 → Action (Progress × σ) α)
    (world : σ) :
    (request.run send).runOn ({}, world) =
      match (request.attemptsFrom send 1 (request.policy.attempts - 1)).runOn ({}, world) with
      | (.ok a, (progress, after)) => (.ok a, ({ progress with stage := .succeeded }, after))
      | (.error (.transport failure), (progress, after)) =>
        (.error (.exhausted (.transport failure) progress.attempt),
          ({ progress with stage := .failed }, after))
      | (.error failure, (progress, after)) =>
        (.error failure, ({ progress with stage := .failed }, after)) := by
  simp only [Request.run, runOn_bind, Action.runOn_get, bne_self_eq_false, Bool.false_eq_true,
    ↓reduceIte, Action.runOn_outcome]
  rcases (request.attemptsFrom send 1 (request.policy.attempts - 1)).runOn ({}, world) with
    ⟨f | a, progress, after⟩
  · cases f <;> rfl
  · rfl

/-- How the attempts of a request come out, with the state before and after each.
Sending gives the outcome and leaves the progress alone; the pause after a
failure leads to the next attempt. -/
structure Course (request : Request σ) (send : Binary64 → Action (Progress × σ) α) where
  outcome : Nat → Except Failure α
  before : Nat → σ
  after : Nat → σ
  sends : ∀ i, (send request.policy.timeout).runOn (requestingAt outcome i, before i) =
    (outcome i, (requestingAt outcome i, after i))
  pauses : ∀ i failure, outcome i = .error (.transport failure) →
    (request.sleep (request.policy.delayFor ((i + 1 : Nat) : Int))).runOn
      (retryingAt i failure, request.warn (request.failureLine (i + 1) failure) (after i)) =
    (.ok (), (retryingAt i failure, before (i + 1)))

namespace Course

variable {request : Request σ} {send : Binary64 → Action (Progress × σ) α} (c : Course request send)

theorem runOn_attemptOnce (i : Nat) (hp : progress.lastError = errorBefore c.outcome i) :
    (request.attemptOnce send (i + 1)).runOn (progress, c.before i) =
      match c.outcome i with
      | .ok a => (.ok (.ok a), (requestingAt c.outcome i, c.after i))
      | .error (.transport failure) => (.ok (.error failure),
          (retryingAt i failure, request.warn (request.failureLine (i + 1) failure) (c.after i)))
      | .error failure => (.error failure, (requestingAt c.outcome i, c.after i)) := by
  have begun : ({ progress with stage := .requesting, attempt := i + 1 } : Progress) =
      requestingAt c.outcome i := by simp [requestingAt, hp]
  simp only [Request.attemptOnce, Request.setProgress, runOn_bind, Action.runOn_modify,
    Action.runOn_outcome, begun, c.sends]
  cases c.outcome i with
  | ok a => rfl
  | error f => cases f <;> rfl

/-- An attempt that the transport fails leads to the next one, if there is one.
-/
theorem attemptsFrom_failed {failure : TransportFailure} (progress : Progress) (more : Nat)
    (hp : progress.lastError = errorBefore c.outcome i)
    (failed : c.outcome i = .error (.transport failure)) :
    (request.attemptsFrom send (i + 1) (more + 1)).runOn (progress, c.before i) =
      (request.attemptsFrom send (i + 1 + 1) more).runOn
        (retryingAt i failure, c.before (i + 1)) := by
  simp only [Request.attemptsFrom, runOn_bind, c.runOn_attemptOnce i hp, failed,
    c.pauses i failure failed]

theorem failures_succ (failed : ∀ j < m + 1, (transport? (c.outcome (i + j))).isSome) :
    (∃ failure, c.outcome i = .error (.transport failure)) ∧
      ∀ j < m, (transport? (c.outcome (i + 1 + j))).isSome := by
  constructor
  · obtain ⟨failure, hf⟩ := Option.isSome_iff_exists.mp (failed 0 (Nat.succ_pos m))
    exact ⟨failure, transport?_eq_some.mp hf⟩
  · intro j hj
    have later := failed (j + 1) (by omega)
    rwa [show i + (j + 1) = i + 1 + j by omega] at later

theorem attemptsFrom_settled (progress : Progress) (m : Nat)
    (hp : progress.lastError = errorBefore c.outcome i)
    (hm : m ≤ more) (failed : ∀ j < m, (transport? (c.outcome (i + j))).isSome)
    (settled : transport? (c.outcome (i + m)) = none) :
    (request.attemptsFrom send (i + 1) more).runOn (progress, c.before i) =
      (c.outcome (i + m), (requestingAt c.outcome (i + m), c.after (i + m))) := by
  induction m generalizing i more progress with
  | zero =>
    cases more <;> simp only [Request.attemptsFrom, runOn_bind, c.runOn_attemptOnce i hp]
    all_goals
      cases h : c.outcome i with
      | ok a => simp
      | error f => cases f <;> simp_all [transport?]
  | succ m ih =>
    obtain ⟨⟨failure, hf⟩, later⟩ := c.failures_succ failed
    have recorded : (retryingAt i failure).lastError = errorBefore c.outcome (i + 1) :=
      (transport?_eq_some.mpr hf).symm
    have next : i + (m + 1) = i + 1 + m := by omega
    rw [next] at settled ⊢
    cases more with
    | zero => omega
    | succ more =>
      rw [c.attemptsFrom_failed progress more hp hf]
      exact ih _ recorded (by omega) later settled

theorem attemptsFrom_exhausted {failure : TransportFailure} (progress : Progress) (more : Nat)
    (hp : progress.lastError = errorBefore c.outcome i)
    (failed : ∀ j < more, (transport? (c.outcome (i + j))).isSome)
    (last : c.outcome (i + more) = .error (.transport failure)) :
    (request.attemptsFrom send (i + 1) more).runOn (progress, c.before i) =
      (.error (.transport failure), (retryingAt (i + more) failure,
        request.warn (request.failureLine (i + more + 1) failure) (c.after (i + more)))) := by
  induction more generalizing i progress with
  | zero =>
    have last : c.outcome i = .error (.transport failure) := last
    simp [Request.attemptsFrom, runOn_bind, c.runOn_attemptOnce i hp, last]
  | succ more ih =>
    obtain ⟨⟨f, hf⟩, later⟩ := c.failures_succ failed
    have recorded : (retryingAt i f).lastError = errorBefore c.outcome (i + 1) :=
      (transport?_eq_some.mpr hf).symm
    have next : i + (more + 1) = i + 1 + more := by omega
    rw [next] at last ⊢
    rw [c.attemptsFrom_failed progress more hp hf]
    exact ih _ recorded later last

theorem run_settled (hk : k < request.policy.attempts)
    (failed : ∀ j < k, (transport? (c.outcome j)).isSome)
    (settled : transport? (c.outcome k) = none) :
    (request.run send).runOn ({}, c.before 0) = (c.outcome k,
      ({ requestingAt c.outcome k with stage := stageAfter (c.outcome k) }, c.after k)) := by
  have main := c.attemptsFrom_settled (i := 0) {} k rfl (Nat.le_sub_one_of_lt hk)
    (by simpa using failed) (by simpa using settled)
  simp only [Nat.zero_add] at main
  rw [request.runOn_run, main]
  cases h : c.outcome k with
  | ok a => rfl
  | error f =>
    cases f with
    | transport f => simp [h, transport?] at settled
    | _ => rfl

theorem run_exhausted {failure : TransportFailure}
    (failed : ∀ j < request.policy.attempts - 1, (transport? (c.outcome j)).isSome)
    (last : c.outcome (request.policy.attempts - 1) = .error (.transport failure)) :
    (request.run send).runOn ({}, c.before 0) =
      (.error (.exhausted (.transport failure) request.policy.attempts),
        ({ retryingAt (request.policy.attempts - 1) failure with stage := .failed },
          request.warn (request.failureLine request.policy.attempts failure)
            (c.after (request.policy.attempts - 1)))) := by
  have main := c.attemptsFrom_exhausted (i := 0) {} (request.policy.attempts - 1) rfl
    (by simpa using failed) (by simpa using last)
  have count : request.policy.attempts - 1 + 1 = request.policy.attempts :=
    Nat.succ_pred_eq_of_pos request.policy.attempts_pos
  simp only [Nat.zero_add, count] at main
  rw [request.runOn_run, main]
  simp only [retryingAt, count]

/-- The state after a last attempt; a failure of the transport is still logged. -/
def ending (i : Nat) : σ :=
  match transport? (c.outcome i) with
  | some failure => request.warn (request.failureLine (i + 1) failure) (c.after i)
  | none => c.after i

/-- A request ends with the first attempt that either settles it or is the last
one. -/
theorem run_concluded (hk : k < request.policy.attempts)
    (failed : ∀ j < k, (transport? (c.outcome j)).isSome)
    (last : transport? (c.outcome k) = none ∨ k + 1 = request.policy.attempts) :
    ∃ progress, (request.run send).runOn ({}, c.before 0) =
      (concluded (c.outcome k) (k + 1), (progress, c.ending k)) := by
  cases h : transport? (c.outcome k) with
  | none =>
    rw [c.run_settled hk failed h, concluded_of_settled h, ending, h]
    exact ⟨_, rfl⟩
  | some failure =>
    obtain h' | count := last
    · rw [h] at h'
      cases h'
    · have k_eq : request.policy.attempts - 1 = k := by omega
      rw [c.run_exhausted (k_eq ▸ failed) (k_eq ▸ transport?_eq_some.mp h), ending, h,
        transport?_eq_some.mp h, k_eq, count]
      exact ⟨_, rfl⟩

end Course

end PatchReview.Retry
