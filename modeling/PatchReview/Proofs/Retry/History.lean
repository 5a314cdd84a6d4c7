import Mathlib.Data.List.Chain
import PatchReview.Proofs.Retry.Probe

/-!
# The history of a request

What probes note down of a request, in order: attempts that the transport failed,
each logged and with a pause after it, and a last attempt. Each attempt finds
the error of the one before it on record. The stages that a request goes through
are linked by the moves of `Stage.Move`, and a call after the first one finds a
request that has begun (`exists_history`).
-/

namespace PatchReview.Retry

open PatchReview.Action (runOn_bind runOn_bind_ok)

inductive Stage.Move : Stage → Stage → Prop
  | begin : Move .idle .requesting
  | succeed : Move .requesting .succeeded
  | fail : Move .requesting .failed
  | pause : Move .requesting .retrying
  | again : Move .retrying .requesting
  | giveUp : Move .retrying .failed

namespace Moment

def stage? : Moment → Option Stage
  | moved progress => some progress.stage
  | _ => none

def failure? : Moment → Option TransportFailure
  | answered failure => failure
  | _ => none

def warning? : Moment → Option String
  | warned line => some line
  | _ => none

end Moment

-- ---------------------------------------------------------------------------
-- Attempts
-- ---------------------------------------------------------------------------

section
variable (request : Request σ) (attempt : Nat) (error : Option TransportFailure)

def tried (answer : Option TransportFailure) : List Moment :=
  [.moved ⟨.requesting, attempt, error⟩,
    .sent request.policy.timeout ⟨.requesting, attempt, error⟩, .answered answer]

def failedTry (failure : TransportFailure) : List Moment :=
  tried request attempt error (some failure) ++
    [.moved ⟨.retrying, attempt, some failure⟩, .warned (request.failureLine attempt failure)]

def pausedTry (failure : TransportFailure) : List Moment :=
  failedTry request attempt error failure ++
    [.slept (request.policy.delayFor attempt) ⟨.retrying, attempt, some failure⟩]

def pausedTries (attempt : Nat) (error : Option TransportFailure) :
    List TransportFailure → List Moment
  | [] => []
  | failure :: rest =>
    pausedTry request attempt error failure ++ pausedTries (attempt + 1) (some failure) rest

/-- The last attempt of a request, when up to so many are left after it: what is
noted, how it comes out, and the progress that it leaves. -/
inductive LastTry (left : Nat) : List Moment → Except Failure α → Progress → Prop
  | settled (h : transport? outcome = none) :
    LastTry left (tried request attempt error none) outcome ⟨.requesting, attempt, error⟩
  | exhausted (failure : TransportFailure) (h : left = 0) :
    LastTry left (failedTry request attempt error failure) (.error (.transport failure))
      ⟨.retrying, attempt, some failure⟩
  /-- The pause after it fails. -/
  | unpaused (failure : TransportFailure) (other : Failure) (h : left ≠ 0) :
    LastTry left (pausedTry request attempt error failure) (.error other)
      ⟨.retrying, attempt, some failure⟩

end

theorem LastTry.after_failure {request : Request σ} {outcome : Except Failure α}
    {failure : TransportFailure}
    (h : LastTry request (attempt + 1 + failures.length) (failures.getLast?.or (some failure))
      (more - failures.length) last outcome ending) (error : Option TransportFailure) :
    LastTry request (attempt + (failure :: failures).length)
      ((failure :: failures).getLast?.or error) (more + 1 - (failure :: failures).length) last
      outcome ending := by
  have place : attempt + (failures.length + 1) = attempt + 1 + failures.length := by omega
  have left : more + 1 - (failures.length + 1) = more - failures.length := by omega
  have kept : (failure :: failures).getLast?.or error = failures.getLast?.or (some failure) := by
    rw [List.getLast?_cons]
    cases failures.getLast? <;> rfl
  rwa [List.length_cons, place, left, kept]

section
variable {request : Request σ} {send : Binary64 → Action (Progress × σ) α}
  (sends : ∀ timeout, Steady (send timeout)) (sleeps : ∀ seconds, Steady (request.sleep seconds))

theorem runOn_probedChange (change : Progress → Progress) (progress : Progress) (world : σ)
    (seen : List Moment) :
    (probedChange change).runOn (progress, world, seen) =
      (.ok (), (change progress, world, seen ++ [.moved (change progress)])) := rfl

theorem exists_runOn_probedSend {progress : Progress} (begun : progress.stage ≠ .idle)
    (steady : Steady (send timeout)) (world : σ) (seen : List Moment) :
    ∃ outcome after, (probedSend send timeout).runOn (progress, world, seen) =
      (outcome, (progress, after, seen ++
        [.sent timeout progress, .answered (transport? outcome)])) := by
  have kept := steady progress world begun
  rcases ran : (send timeout).runOn (progress, world) with ⟨outcome, changed, after⟩
  rw [ran] at kept
  obtain rfl : changed = progress := kept
  refine ⟨outcome, after, ?_⟩
  simp only [probedSend, noteProgress, note, besideNotes, runOn_bind, Action.runOn_get,
    Action.runOn_modify, Action.runOn_outcome, Action.runOn_ofRun, Action.runOn_ofExcept, ran,
    List.append_assoc, List.singleton_append]

theorem exists_runOn_probedSleep {progress : Progress} (begun : progress.stage ≠ .idle)
    (steady : Steady (request.sleep seconds)) (world : σ) (seen : List Moment) :
    ∃ result after, (request.probed.sleep seconds).runOn (progress, world, seen) =
      (result, (progress, after, seen ++ [.slept seconds progress])) := by
  have kept := steady progress world begun
  rcases ran : (request.sleep seconds).runOn (progress, world) with ⟨result, changed, after⟩
  rw [ran] at kept
  obtain rfl : changed = progress := kept
  refine ⟨result, after, ?_⟩
  simp only [Request.probed, noteProgress, note, besideNotes, runOn_bind, Action.runOn_get,
    Action.runOn_modify, Action.runOn_ofRun, ran]

theorem runOn_attemptsFrom_of_failed {failure : TransportFailure} {seen seenAfter : List Moment}
    (failed : (request.probed.attemptOnceVia probedChange (probedSend send) attempt).runOn
        (progress, world, seen) =
      (.ok (.error failure), (changed, after, seenAfter))) :
    (request.probed.attemptsFromVia probedChange (probedSend send) attempt (more + 1)).runOn
        (progress, world, seen) =
      (request.probed.sleep (request.policy.delayFor attempt) >>= fun _ =>
        request.probed.attemptsFromVia probedChange (probedSend send) (attempt + 1) more).runOn
          (changed, after, seenAfter) := by
  rw [Request.attemptsFromVia, runOn_bind_ok failed]
  rfl

include sends

variable (request) in
theorem exists_runOn_attemptOnce (attempt : Nat) (progress : Progress) (world : σ)
    (seen : List Moment) :
    ∃ after,
      (∃ outcome, transport? outcome = none ∧
        (request.probed.attemptOnceVia probedChange (probedSend send) attempt).runOn
          (progress, world, seen) =
        (outcome.map .ok, (⟨.requesting, attempt, progress.lastError⟩, after,
          seen ++ tried request attempt progress.lastError none))) ∨
      ∃ failure, (request.probed.attemptOnceVia probedChange (probedSend send) attempt).runOn
          (progress, world, seen) =
        (.ok (.error failure), (⟨.retrying, attempt, some failure⟩, after,
          seen ++ failedTry request attempt progress.lastError failure)) := by
  have begun : (⟨.requesting, attempt, progress.lastError⟩ : Progress).stage ≠ .idle := nofun
  obtain ⟨outcome, after, sent⟩ := exists_runOn_probedSend begun
    (sends request.probed.policy.timeout) world
    (seen ++ [.moved ⟨.requesting, attempt, progress.lastError⟩])
  rw [List.append_assoc] at sent
  simp only [Request.attemptOnceVia, runOn_bind, runOn_probedChange, Action.runOn_outcome, sent]
  cases answer : transport? outcome with
  | none =>
    refine ⟨after, .inl ⟨outcome, answer, ?_⟩⟩
    cases outcome with
    | ok a => rfl
    | error failure =>
      cases failure with
      | transport => cases answer
      | _ => rfl
  | some failure =>
    obtain rfl := transport?_eq_some.mp answer
    refine ⟨request.warn (request.failureLine attempt failure) after, .inr ⟨failure, ?_⟩⟩
    simp only [runOn_bind, runOn_probedChange, Action.runOn_modify, Action.runOn_pure, failedTry,
      tried, Request.probed, List.append_assoc]
    rfl

include sleeps

theorem exists_runOn_attemptsFrom (attempt more : Nat) (progress : Progress) (world : σ)
    (seen : List Moment) :
    ∃ failures last outcome ending after, failures.length ≤ more ∧
      LastTry request (attempt + failures.length) (failures.getLast?.or progress.lastError)
        (more - failures.length) last outcome ending ∧
      (request.probed.attemptsFromVia probedChange (probedSend send) attempt more).runOn
          (progress, world, seen) =
        (outcome, (ending, after,
          seen ++ (pausedTries request attempt progress.lastError failures ++ last))) := by
  induction more generalizing attempt progress world seen with
  | zero =>
    obtain ⟨after, ⟨outcome, settled, ran⟩ | ⟨failure, ran⟩⟩ :=
      exists_runOn_attemptOnce request sends attempt progress world seen
    · refine ⟨[], _, outcome, _, after, Nat.le_refl 0, .settled settled, ?_⟩
      rw [Request.attemptsFromVia, runOn_bind, ran]
      cases outcome <;> rfl
    · refine ⟨[], _, .error (.transport failure), _, after, Nat.le_refl 0, .exhausted failure rfl, ?_⟩
      rw [Request.attemptsFromVia, runOn_bind, ran]
      rfl
  | succ more ih =>
    obtain ⟨after, ⟨outcome, settled, ran⟩ | ⟨failure, ran⟩⟩ :=
      exists_runOn_attemptOnce request sends attempt progress world seen
    · refine ⟨[], _, outcome, _, after, Nat.zero_le _, .settled settled, ?_⟩
      rw [Request.attemptsFromVia, runOn_bind, ran]
      cases outcome <;> rfl
    · have begun : (⟨.retrying, attempt, some failure⟩ : Progress).stage ≠ .idle := nofun
      obtain ⟨result, later, slept⟩ := exists_runOn_probedSleep begun
        (sleeps (request.policy.delayFor attempt)) after
        (seen ++ failedTry request attempt progress.lastError failure)
      rw [runOn_attemptsFrom_of_failed ran]
      cases result with
      | error other =>
        -- A pause that fails makes its attempt the last one.
        refine ⟨[], pausedTry request attempt progress.lastError failure, .error other, _, later,
          Nat.zero_le _, .unpaused failure other (Nat.succ_ne_zero more), ?_⟩
        rw [List.append_assoc] at slept
        exact Action.runOn_bind_error slept
      | ok =>
        rw [runOn_bind_ok slept]
        obtain ⟨failures, last, outcome, ending, final, few, isLast, ran⟩ :=
          ih (attempt + 1) ⟨.retrying, attempt, some failure⟩ later
            (seen ++ failedTry request attempt progress.lastError failure ++
              [.slept (request.policy.delayFor attempt) ⟨.retrying, attempt, some failure⟩])
        refine ⟨failure :: failures, last, outcome, ending, final, Nat.succ_le_succ few,
          isLast.after_failure _, ?_⟩
        rw [ran, pausedTries, pausedTry]
        simp only [List.append_assoc]

theorem exists_runOn_probedRun (world : σ) :
    ∃ failures last outcome ending after, failures.length < request.policy.attempts ∧
      LastTry request (failures.length + 1) failures.getLast?
        (request.policy.attempts - (failures.length + 1)) last outcome ending ∧
      (request.probedRun send).runOn ({}, world, []) =
        (concluded outcome (failures.length + 1), ({ ending with stage := stageAfter outcome }, after,
          pausedTries request 1 none failures ++ last ++
            [.moved { ending with stage := stageAfter outcome }])) := by
  obtain ⟨failures, last, outcome, ending, after, few, isLast, ran⟩ :=
    exists_runOn_attemptsFrom sends sleeps 1 (request.policy.attempts - 1) {} world []
  have positive := request.policy.attempts_pos
  rw [Nat.add_comm 1, Option.or_none, Nat.sub_sub, Nat.add_comm 1] at isLast
  refine ⟨failures, last, outcome, ending, after, by omega, isLast, ?_⟩
  have attempts : ending.attempt = failures.length + 1 := by cases isLast <;> rfl
  have tries : (request.probed.attemptsFromVia probedChange (probedSend send) 1
      (request.probed.policy.attempts - 1)).runOn ({}, world, []) = _ := ran
  rw [Request.probedRun, Request.runOn_runVia_of_idle rfl]
  simp only [Request.concludeVia, runOn_bind, Action.runOn_outcome, tries]
  cases outcome with
  | ok answer => rfl
  | error failure =>
    cases failure with
    | transport failure =>
      simp only [runOn_bind, runOn_probedChange, Action.runOn_get, attempts]
      rfl
    | _ => rfl

end

-- ---------------------------------------------------------------------------
-- Histories
-- ---------------------------------------------------------------------------

section
variable {request : Request σ} {attempt left : Nat} {error : Option TransportFailure}
  {last : List Moment} {outcome : Except Failure α} {ending : Progress}

theorem filterMap_failure?_pausedTries (failures : List TransportFailure) :
    (pausedTries request attempt error failures).filterMap Moment.failure? = failures := by
  induction failures generalizing attempt error with
  | nil => rfl
  | cons failure rest ih =>
    rw [pausedTries, List.filterMap_append, ih]
    rfl

theorem filterMap_warning?_pausedTries (failures : List TransportFailure) :
    (pausedTries request attempt error failures).filterMap Moment.warning? =
      (failures.zipIdx attempt).map fun failed => request.failureLine failed.2 failed.1 := by
  induction failures generalizing attempt error with
  | nil => rfl
  | cons failure rest ih =>
    rw [pausedTries, List.filterMap_append, ih]
    rfl

theorem LastTry.filterMap_warning? (h : LastTry request attempt error left last outcome ending) :
    last.filterMap Moment.warning? =
      ((last.filterMap Moment.failure?).zipIdx attempt).map fun failed =>
        request.failureLine failed.2 failed.1 := by
  cases h <;> rfl

theorem isChain_pausedTries (failures : List TransportFailure) (h : Stage.Move start .requesting)
    (hr : ∀ start, Stage.Move start .requesting → (start :: rest).IsChain Stage.Move) :
    (start :: ((pausedTries request attempt error failures).filterMap Moment.stage? ++ rest)).IsChain
      Stage.Move := by
  induction failures generalizing start attempt error with
  | nil => exact hr start h
  | cons failure others ih =>
    rw [pausedTries, List.filterMap_append, List.append_assoc]
    exact .cons_cons h (.cons_cons .pause (ih .again))

theorem LastTry.isChain (h : LastTry request attempt error left last outcome ending)
    (start : Stage) (begins : Stage.Move start .requesting) :
    (start :: (last.filterMap Moment.stage? ++ [stageAfter outcome])).IsChain Stage.Move := by
  cases h with
  | settled =>
    cases outcome with
    | ok => exact .cons_cons begins (.cons_cons .succeed (.singleton _))
    | error => exact .cons_cons begins (.cons_cons .fail (.singleton _))
  | exhausted | unpaused =>
    exact .cons_cons begins (.cons_cons .pause (.cons_cons .giveUp (.singleton _)))

end

-- ---------------------------------------------------------------------------
-- Calls
-- ---------------------------------------------------------------------------

theorem runOn_mapM_of_fixed {act : β → Action τ γ} {state : τ} {answer : γ}
    (h : ∀ item, (act item).runOn state = (.ok answer, state)) (items : List β) :
    (items.mapM act).runOn state = (.ok (items.map fun _ => answer), state) := by
  induction items with
  | nil => rfl
  | cons item rest ih =>
    rw [List.mapM_cons, runOn_bind_ok (h item), runOn_bind_ok ih]
    rfl

theorem stageAfter_ne_idle (outcome : Except Failure α) : stageAfter outcome ≠ .idle := by
  cases outcome <;> nofun

/-- Of all calls of a request the first one makes attempts, each of which finds
its number and the error of the one before it, is logged once if the transport
fails it, and is then followed by a pause that finds its number and its error.
The stages that the request goes through are linked by moves. Any other call,
whenever it is made, is refused and changes nothing, so that sendings and pauses
may make such calls. -/
theorem exists_history (request : Request σ) :
    (∀ (send : Binary64 → Action (Progress × σ) α) progress world, progress.stage ≠ .idle →
      (request.run send).runOn (progress, world) =
        (.error (refusal progress.stage), (progress, world))) ∧
    (∀ send : Binary64 → Action (Progress × σ) α, Steady (request.run send)) ∧
    ∀ (first : Binary64 → Action (Progress × σ) α) later world,
      (∀ timeout, Steady (first timeout)) → (∀ seconds, Steady (request.sleep seconds)) →
      ∃ failures last outcome ending after history,
        history = pausedTries request 1 none failures ++ last ++
          [.moved { ending with stage := stageAfter outcome }] ∧
        failures.length < request.policy.attempts ∧
        LastTry request (failures.length + 1) failures.getLast?
          (request.policy.attempts - (failures.length + 1)) last outcome ending ∧
        ((first :: later).mapM fun send => (request.probedRun send).outcome).runOn
            ({}, world, []) =
          (.ok (concluded outcome (failures.length + 1) ::
              later.map fun _ => .error (refusal (stageAfter outcome))),
            ({ ending with stage := stageAfter outcome }, after, history)) ∧
        ((first :: later).mapM fun send => (request.run send).outcome).runOn ({}, world) =
          (.ok (concluded outcome (failures.length + 1) ::
              later.map fun _ => .error (refusal (stageAfter outcome))),
            ({ ending with stage := stageAfter outcome }, after)) ∧
        history.filterMap Moment.warning? =
          ((history.filterMap Moment.failure?).zipIdx 1).map
            (fun failed => request.failureLine failed.2 failed.1) ∧
        (.idle :: history.filterMap Moment.stage?).IsChain Stage.Move := by
  refine ⟨fun send progress world begun => runOn_run_of_begun request send begun world,
    Steady.run request, fun first later world sends sleeps => ?_⟩
  obtain ⟨failures, last, outcome, ending, after, few, isLast, probed⟩ :=
    exists_runOn_probedRun sends sleeps world
  have begun : ({ ending with stage := stageAfter outcome } : Progress).stage ≠ .idle :=
    stageAfter_ne_idle outcome
  have plain : (request.run first).runOn ({}, world) =
      (concluded outcome (failures.length + 1),
        ({ ending with stage := stageAfter outcome }, after)) := by
    obtain ⟨more, mirrored⟩ := mirrors_probedRun request first {} world []
    rw [probed] at mirrored
    simp only [Prod.mk.injEq] at mirrored
    obtain ⟨result, progress, rest, -⟩ := mirrored
    exact Prod.ext result.symm (Prod.ext progress.symm rest.symm)
  refine ⟨failures, last, outcome, ending, after, _, rfl, few, isLast, ?_, ?_, ?_, ?_⟩
  · rw [List.mapM_cons, runOn_bind_ok (by rw [Action.runOn_outcome, probed]),
      runOn_bind_ok (runOn_mapM_of_fixed (fun send => by
        rw [Action.runOn_outcome, Request.probedRun, runOn_runVia_of_begun _ _ _ begun]) later)]
    rfl
  · rw [List.mapM_cons, runOn_bind_ok (by rw [Action.runOn_outcome, plain]),
      runOn_bind_ok (runOn_mapM_of_fixed (fun send => by
        rw [Action.runOn_outcome, runOn_run_of_begun _ _ begun]) later)]
    rfl
  · simp only [List.filterMap_append, filterMap_warning?_pausedTries, isLast.filterMap_warning?,
      filterMap_failure?_pausedTries, List.zipIdx_append, List.map_append, Nat.add_comm 1]
    rfl
  · rw [List.filterMap_append, List.filterMap_append, List.append_assoc]
    exact isChain_pausedTries failures .begin isLast.isChain

def reentrant : Request (List String) where
  policy := { maxAttempts := 2 }
  label := "LLM"
  sleep _ := do
    let _ ← (Request.run ⟨{}, "LLM", fun _ => return, fun _ log => log⟩ fun _ => return 0).outcome
  warn line log := log ++ [line]

/-- A sending that calls its request again, and fails while nothing is logged. -/
def callingSend (_ : Binary64) : Action (Progress × List String) Nat := do
  let _ ← (reentrant.run fun _ => return 0).outcome
  Action.onSecond (Action.ofRun fun log =>
    (if log.isEmpty then .error (.transport (.stated true "late" none none)) else .ok log.length, log))

theorem exists_history_reentrant :
    (∀ timeout, Steady (callingSend timeout)) ∧ (∀ seconds, Steady (reentrant.sleep seconds)) ∧
      ([callingSend, callingSend].mapM fun send => (reentrant.run send).outcome).runOn ({}, []) =
        (.ok [.ok 1, .error (refusal .succeeded)],
          (⟨.succeeded, 2, some (.stated true "late" none none)⟩, ["LLM request attempt 1 failed: late"])) ∧
      ∃ result progress log history,
        ([callingSend, callingSend].mapM fun send => (reentrant.probedRun send).outcome).runOn
            ({}, [], []) = (result, (progress, log, history)) ∧
          (.idle :: history.filterMap Moment.stage?).IsChain Stage.Move := by
  have sends : ∀ timeout, Steady (callingSend timeout) := fun timeout =>
    (Steady.run reentrant _).outcome.bind fun _ => .onSecond _
  have sleeps : ∀ seconds, Steady (reentrant.sleep seconds) := fun seconds =>
    (Steady.run _ _).outcome.bind fun _ _ _ _ => rfl
  obtain ⟨-, -, histories⟩ := exists_history (α := Nat) reentrant
  obtain ⟨failures, last, outcome, ending, after, history, -, -, -, probed, -, -, chain⟩ :=
    histories callingSend [callingSend] [] sends sleeps
  exact ⟨sends, sleeps, rfl, _, _, _, history, probed, chain⟩

end PatchReview.Retry
