import PatchReview.Action

/-!
# Retried requests

A request is sent until it is answered, fails for another reason than its
transport, or has used up the attempts of its policy; it pauses between
attempts, longer each time. Its progress is part of the state that sending and
sleeping can see. A request runs once: a second run, also one from within the
first, is refused and changes nothing.
-/

namespace PatchReview.Retry

structure Policy where
  maxAttempts : Int := 3
  baseDelay : Binary64 := .ofNat 1
  timeout : Binary64 := .ofNat 30
  deriving DecidableEq, Repr

/-- The pause after an attempt, counted from one. -/
def Policy.delayFor (policy : Policy) (attempt : Int) : Binary64 :=
  policy.baseDelay.mul (.ofRatio (attempt < 0) attempt.natAbs 1)

/-- The pause after an attempt whose number is in the range of double-precision
ones. -/
def Policy.checkedDelay (policy : Policy) (attempt : Int) : Except Failure Binary64 :=
  match Binary64.ofInt? attempt with
  | some _ => .ok (policy.delayFor attempt)
  | none => .error .outOfRange

/-- At least one attempt is made. -/
def Policy.attempts (policy : Policy) : Nat := (max 1 policy.maxAttempts).toNat

inductive Stage where
  | idle
  | requesting
  | retrying
  | succeeded
  | failed
  deriving DecidableEq, Repr

def Stage.name : Stage → String
  | .idle => "idle"
  | .requesting => "requesting"
  | .retrying => "retrying"
  | .succeeded => "succeeded"
  | .failed => "failed"

structure Progress where
  stage : Stage := .idle
  attempt : Nat := 0
  lastError : Option TransportFailure := none
  deriving DecidableEq, Repr

structure Request (σ : Type) where
  policy : Policy
  label : String
  sleep : Binary64 → Action (Progress × σ) Unit
  warn : String → σ → σ

namespace Request

def setProgress (change : Progress → Progress) : Action (Progress × σ) Unit :=
  modify fun (progress, rest) => (change progress, rest)

/-- One attempt. A failure of the transport is noted and given back; any other
failure ends the request. -/
def attemptOnce (request : Request σ) (send : Binary64 → Action (Progress × σ) α)
    (attempt : Nat) : Action (Progress × σ) (Except TransportFailure α) := do
  setProgress ({ · with stage := .requesting, attempt := attempt })
  match ← Action.outcome (send request.policy.timeout) with
  | .ok answer => return .ok answer
  | .error (.transport failure) =>
    setProgress ({ · with stage := .retrying, lastError := some failure })
    modify fun (progress, rest) =>
      (progress, request.warn
        s!"{request.label} request attempt {attempt} failed: {failure.message}" rest)
    return .error failure
  | .error failure => throw failure

/-- The attempt with a number and, after pauses, up to so many others. -/
def attemptsFrom (request : Request σ) (send : Binary64 → Action (Progress × σ) α)
    (attempt : Nat) : Nat → Action (Progress × σ) α
  | 0 => do
    match ← request.attemptOnce send attempt with
    | .ok answer => return answer
    | .error failure => throw (.transport failure)
  | more + 1 => do
    match ← request.attemptOnce send attempt with
    | .ok answer => return answer
    | .error _ =>
      request.sleep (request.policy.delayFor attempt)
      request.attemptsFrom send (attempt + 1) more

def run (request : Request σ) (send : Binary64 → Action (Progress × σ) α) :
    Action (Progress × σ) α := do
  let (progress, _) ← get
  if progress.stage != .idle then throw (.runtime s!"request already {progress.stage.name}")
  match ← Action.outcome (request.attemptsFrom send 1 (request.policy.attempts - 1)) with
  | .ok answer =>
    setProgress ({ · with stage := .succeeded })
    return answer
  | .error (.transport failure) =>
    setProgress ({ · with stage := .failed })
    let (progress, _) ← get
    throw (.exhausted (.transport failure) progress.attempt)
  | .error failure =>
    setProgress ({ · with stage := .failed })
    throw failure

end Request

end PatchReview.Retry
