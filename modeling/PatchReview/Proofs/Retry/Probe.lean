import PatchReview.Proofs.Retry.Course

/-!
# Requests with probes

A probed request notes down what happens to it: each change of its progress,
and the progress that each sending and each pause finds. Probes change nothing
else (`mirrors_probedRun`). Sendings and pauses may call the request they are
made for; such a call is refused and leaves everything as it is
(`runOn_run_of_begun`), so they are steady: they leave the progress of a request
that has begun alone.
-/

namespace PatchReview.Retry

open PatchReview.Action (runOn_bind)

-- ---------------------------------------------------------------------------
-- Changes of progress
-- ---------------------------------------------------------------------------

namespace Request

section
variable (change : (Progress → Progress) → Action (Progress × σ) Unit) (request : Request σ)
  (send : Binary64 → Action (Progress × σ) α)

def attemptOnceVia (attempt : Nat) : Action (Progress × σ) (Except TransportFailure α) := do
  change ({ · with stage := .requesting, attempt := attempt })
  match ← Action.outcome (send request.policy.timeout) with
  | .ok answer => return .ok answer
  | .error (.transport failure) =>
    change ({ · with stage := .retrying, lastError := some failure })
    modify fun (progress, rest) => (progress, request.warn (request.failureLine attempt failure) rest)
    return .error failure
  | .error failure => throw failure

def attemptsFromVia (attempt : Nat) : Nat → Action (Progress × σ) α
  | 0 => do
    match ← request.attemptOnceVia change send attempt with
    | .ok answer => return answer
    | .error failure => throw (.transport failure)
  | more + 1 => do
    match ← request.attemptOnceVia change send attempt with
    | .ok answer => return answer
    | .error _ =>
      request.sleep (request.policy.delayFor attempt)
      attemptsFromVia (attempt + 1) more

def concludeVia (attempts : Action (Progress × σ) α) : Action (Progress × σ) α := do
  match ← attempts.outcome with
  | .ok answer =>
    change ({ · with stage := .succeeded })
    return answer
  | .error (.transport failure) =>
    change ({ · with stage := .failed })
    let (progress, _) ← get
    throw (.exhausted (.transport failure) progress.attempt)
  | .error failure =>
    change ({ · with stage := .failed })
    throw failure

def runVia : Action (Progress × σ) α := do
  let (progress, _) ← get
  if progress.stage != .idle then throw (.runtime s!"request already {progress.stage.name}")
  concludeVia change (request.attemptsFromVia change send 1 (request.policy.attempts - 1))

end

theorem attemptsFromVia_setProgress (request : Request σ)
    (send : Binary64 → Action (Progress × σ) α) (attempt more : Nat) :
    request.attemptsFromVia setProgress send attempt more = request.attemptsFrom send attempt more := by
  induction more generalizing attempt with
  | zero => rfl
  | succ more ih =>
    unfold attemptsFromVia attemptsFrom
    simp only [ih]
    rfl

/-- A run changes its progress in the plain way and no other. -/
theorem runVia_setProgress (request : Request σ) (send : Binary64 → Action (Progress × σ) α) :
    request.runVia setProgress send = request.run send := by
  unfold runVia run
  simp only [attemptsFromVia_setProgress]
  rfl

end Request

-- ---------------------------------------------------------------------------
-- Calls while a request is under way or over
-- ---------------------------------------------------------------------------

def refusal (stage : Stage) : Failure := .runtime s!"request already {stage.name}"

theorem runOn_runVia_of_begun (change : (Progress → Progress) → Action (Progress × σ) Unit)
    (request : Request σ) (send : Binary64 → Action (Progress × σ) α)
    (begun : progress.stage ≠ .idle) (world : σ) :
    (request.runVia change send).runOn (progress, world) =
      (.error (refusal progress.stage), (progress, world)) := by
  simp only [Request.runVia, runOn_bind, Action.runOn_get, bne_iff_ne.mpr begun, ↓reduceIte]
  rfl

theorem Request.runOn_runVia_of_idle {change : (Progress → Progress) → Action (Progress × σ) Unit}
    {request : Request σ} {send : Binary64 → Action (Progress × σ) α}
    (fresh : progress.stage = .idle) (world : σ) :
    (request.runVia change send).runOn (progress, world) =
      (concludeVia change (request.attemptsFromVia change send 1
        (request.policy.attempts - 1))).runOn (progress, world) := by
  simp only [runVia, runOn_bind, Action.runOn_get, fresh, bne_self_eq_false]
  rfl

theorem runOn_run_of_begun (request : Request σ) (send : Binary64 → Action (Progress × σ) α)
    (begun : progress.stage ≠ .idle) (world : σ) :
    (request.run send).runOn (progress, world) =
      (.error (refusal progress.stage), (progress, world)) := by
  rw [← Request.runVia_setProgress]
  exact runOn_runVia_of_begun _ request send begun world

/-- An action that leaves the progress of a request that has begun alone. -/
def Steady (action : Action (Progress × σ) α) : Prop :=
  ∀ progress world, progress.stage ≠ .idle → (action.runOn (progress, world)).2.1 = progress

namespace Steady

theorem run (request : Request σ) (send : Binary64 → Action (Progress × σ) α) :
    Steady (request.run send) := by
  intro progress world begun
  rw [runOn_run_of_begun request send begun]

theorem outcome {action : Action (Progress × σ) α} (h : Steady action) : Steady action.outcome := h

theorem onSecond (action : Action σ α) : Steady (action.onSecond : Action (Progress × σ) α) :=
  fun _ _ _ => rfl

theorem bind {action : Action (Progress × σ) α} {next : α → Action (Progress × σ) β}
    (h : Steady action) (hn : ∀ a, Steady (next a)) : Steady (action >>= next) := by
  intro progress world begun
  have kept := h progress world begun
  rw [runOn_bind]
  rcases ran : action.runOn (progress, world) with ⟨failure | a, after, rest⟩ <;>
    rw [ran] at kept <;> obtain rfl : after = progress := kept
  · rfl
  · exact hn a after rest begun

end Steady

-- ---------------------------------------------------------------------------
-- Probes
-- ---------------------------------------------------------------------------

inductive Moment where
  /-- A change of the progress, to this one. -/
  | moved (progress : Progress)
  | sent (timeout : Binary64) (progress : Progress)
  /-- The end of a sending, with the failure of the transport if it is one. -/
  | answered (failure : Option TransportFailure)
  | warned (line : String)
  | slept (seconds : Binary64) (progress : Progress)
  deriving DecidableEq, Repr

def note (moment : Moment) : Action (Progress × σ × List Moment) Unit :=
  modify fun (progress, world, seen) => (progress, world, seen ++ [moment])

def noteProgress (moment : Progress → Moment) : Action (Progress × σ × List Moment) Unit := do
  let (progress, _) ← get
  note (moment progress)

def besideNotes (action : Action (Progress × σ) α) : Action (Progress × σ × List Moment) α :=
  Action.ofRun fun (progress, world, seen) =>
    let (result, progress, world) := action.runOn (progress, world)
    (result, (progress, world, seen))

def probedChange (change : Progress → Progress) : Action (Progress × σ × List Moment) Unit := do
  Request.setProgress change
  noteProgress .moved

def probedSend (send : Binary64 → Action (Progress × σ) α) (timeout : Binary64) :
    Action (Progress × σ × List Moment) α := do
  noteProgress (.sent timeout)
  let outcome ← (besideNotes (send timeout)).outcome
  note (.answered (transport? outcome))
  Action.ofExcept outcome

namespace Request

def probed (request : Request σ) : Request (σ × List Moment) where
  policy := request.policy
  label := request.label
  sleep seconds := do
    noteProgress (.slept seconds)
    besideNotes (request.sleep seconds)
  warn line := fun (world, seen) => (request.warn line world, seen ++ [.warned line])

def probedRun (request : Request σ) (send : Binary64 → Action (Progress × σ) α) :
    Action (Progress × σ × List Moment) α :=
  request.probed.runVia probedChange (probedSend send)

end Request

/-- An action does what another one does, and besides takes notes. -/
def Mirrors (probed : Action (Progress × σ × List Moment) α) (action : Action (Progress × σ) α) :
    Prop :=
  ∀ progress world seen, ∃ more,
    probed.runOn (progress, world, seen) =
      ((action.runOn (progress, world)).1, ((action.runOn (progress, world)).2.1,
        (action.runOn (progress, world)).2.2, seen ++ more))

namespace Mirrors

theorem pure (a : α) : Mirrors (σ := σ) (Pure.pure a) (Pure.pure a) :=
  fun _ _ seen => ⟨[], by rw [List.append_nil]; rfl⟩

theorem throw (failure : Failure) : Mirrors (σ := σ) (α := α) (throw failure) (throw failure) :=
  fun _ _ seen => ⟨[], by rw [List.append_nil]; rfl⟩

theorem besideNotes (action : Action (Progress × σ) α) : Mirrors (besideNotes action) action :=
  fun _ _ seen => ⟨[], by rw [List.append_nil]; rfl⟩

theorem bind {probed : Action (Progress × σ × List Moment) α} {action : Action (Progress × σ) α}
    {nextProbed : α → Action (Progress × σ × List Moment) β} {next : α → Action (Progress × σ) β}
    (h : Mirrors probed action) (hn : ∀ a, Mirrors (nextProbed a) (next a)) :
    Mirrors (probed >>= nextProbed) (action >>= next) := by
  intro progress world seen
  obtain ⟨more, ran⟩ := h progress world seen
  rw [runOn_bind, runOn_bind, ran]
  rcases action.runOn (progress, world) with ⟨failure | a, after, rest⟩
  · exact ⟨more, rfl⟩
  · obtain ⟨others, goesOn⟩ := hn a after rest (seen ++ more)
    exact ⟨more ++ others, by rw [← List.append_assoc]; exact goesOn⟩

theorem outcome {probed : Action (Progress × σ × List Moment) α} {action : Action (Progress × σ) α}
    (h : Mirrors probed action) : Mirrors probed.outcome action.outcome := by
  intro progress world seen
  obtain ⟨more, ran⟩ := h progress world seen
  exact ⟨more, by rw [Action.runOn_outcome, ran]; rfl⟩

theorem note_bind (moment : Moment) {probed : Action (Progress × σ × List Moment) α}
    {action : Action (Progress × σ) α} (h : Mirrors probed action) :
    Mirrors (note moment >>= fun _ => probed) action := by
  intro progress world seen
  obtain ⟨more, ran⟩ := h progress world (seen ++ [moment])
  exact ⟨moment :: more, by rw [List.append_cons]; exact ran⟩

theorem noteProgress_bind (moment : Progress → Moment)
    {probed : Action (Progress × σ × List Moment) α} {action : Action (Progress × σ) α}
    (h : Mirrors probed action) : Mirrors (noteProgress moment >>= fun _ => probed) action :=
  fun progress world seen => h.note_bind (moment progress) progress world seen

theorem probedChange (change : Progress → Progress) :
    Mirrors (σ := σ) (probedChange change) (Request.setProgress change) :=
  fun progress _ _ => ⟨[.moved (change progress)], rfl⟩

theorem probedSend (send : Binary64 → Action (Progress × σ) α) (timeout : Binary64) :
    Mirrors (probedSend send timeout) (send timeout) := by
  intro progress world seen
  refine ⟨[.sent timeout progress,
    .answered (transport? ((send timeout).runOn (progress, world)).1)], ?_⟩
  rw [List.append_cons]
  rfl

end Mirrors

theorem mirrors_attemptOnce (request : Request σ) (send : Binary64 → Action (Progress × σ) α)
    (attempt : Nat) :
    Mirrors (request.probed.attemptOnceVia probedChange (probedSend send) attempt)
      (request.attemptOnceVia Request.setProgress send attempt) := by
  refine (Mirrors.probedChange _).bind fun _ => (Mirrors.probedSend send _).outcome.bind fun outcome => ?_
  cases outcome with
  | ok answer => exact .pure _
  | error failure =>
    cases failure with
    | transport failure =>
      refine (Mirrors.probedChange _).bind fun _ => Mirrors.bind ?_ fun _ => .pure _
      exact fun progress world seen =>
        ⟨[.warned (request.failureLine attempt failure)], rfl⟩
    | _ => exact .throw _

theorem mirrors_attemptsFrom (request : Request σ) (send : Binary64 → Action (Progress × σ) α)
    (attempt more : Nat) :
    Mirrors (request.probed.attemptsFromVia probedChange (probedSend send) attempt more)
      (request.attemptsFromVia Request.setProgress send attempt more) := by
  induction more generalizing attempt with
  | zero =>
    refine (mirrors_attemptOnce request send attempt).bind fun outcome => ?_
    cases outcome with
    | ok answer => exact .pure _
    | error failure => exact .throw _
  | succ more ih =>
    refine (mirrors_attemptOnce request send attempt).bind fun outcome => ?_
    cases outcome with
    | ok answer => exact .pure _
    | error failure =>
      exact (Mirrors.noteProgress_bind _ (.besideNotes _)).bind fun _ => ih (attempt + 1)

theorem mirrors_conclude {probed : Action (Progress × σ × List Moment) α}
    {attempts : Action (Progress × σ) α} (h : Mirrors probed attempts) :
    Mirrors (Request.concludeVia probedChange probed)
      (Request.concludeVia Request.setProgress attempts) := by
  refine h.outcome.bind fun outcome => ?_
  cases outcome with
  | ok answer => exact (Mirrors.probedChange _).bind fun _ => .pure _
  | error failure =>
    cases failure with
    | transport failure =>
      exact (Mirrors.probedChange _).bind fun _ => fun progress world seen =>
        Mirrors.throw (.exhausted (.transport failure) progress.attempt) progress world seen
    | _ => exact (Mirrors.probedChange _).bind fun _ => .throw _

theorem mirrors_probedRun (request : Request σ) (send : Binary64 → Action (Progress × σ) α) :
    Mirrors (request.probedRun send) (request.run send) := by
  intro progress world seen
  rw [← Request.runVia_setProgress, Request.probedRun]
  by_cases begun : progress.stage = .idle
  · rw [Request.runOn_runVia_of_idle begun, Request.runOn_runVia_of_idle begun]
    exact mirrors_conclude (mirrors_attemptsFrom request send 1 _) progress world seen
  · rw [runOn_runVia_of_begun _ _ _ begun, runOn_runVia_of_begun _ _ _ begun]
    exact ⟨[], by rw [List.append_nil]⟩

end PatchReview.Retry
