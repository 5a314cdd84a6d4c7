import PatchReview.Action

/-!
# Running actions

What each way of putting actions together does to an answer and a state. An
action keeps a part of the state if no run of it changes that part, whether it
answers or fails, and it answers a value if every run gives that value; both
carry over from the parts of an action to the whole.
-/

namespace PatchReview.Action

@[simp] theorem runOn_pure (a : α) (s : σ) : (pure a : Action σ α).runOn s = (.ok a, s) := rfl

@[simp] theorem runOn_throw (f : Failure) (s : σ) :
    (throw f : Action σ α).runOn s = (.error f, s) := rfl

theorem runOn_bind (x : Action σ α) (f : α → Action σ β) (s : σ) :
    (x >>= f).runOn s = match x.runOn s with
      | (.ok a, s') => (f a).runOn s'
      | (.error failure, s') => (.error failure, s') := by
  change (ExceptT.bindCont f (x.runOn s).1).run (x.runOn s).2 = _
  cases h : x.runOn s with
  | mk result s' => cases result <;> rfl

theorem runOn_bind_ok {x : Action σ α} {f : α → Action σ β} (h : x.runOn s = (.ok a, s')) :
    (x >>= f).runOn s = (f a).runOn s' := by
  rw [runOn_bind, h]

theorem runOn_bind_error {x : Action σ α} {f : α → Action σ β} {failure : Failure}
    (h : x.runOn s = (.error failure, s')) : (x >>= f).runOn s = (.error failure, s') := by
  rw [runOn_bind, h]

theorem runOn_bind_eq_ok {x : Action σ α} {f : α → Action σ β} :
    (x >>= f).runOn s = (.ok b, s'') ↔
      ∃ a s', x.runOn s = (.ok a, s') ∧ (f a).runOn s' = (.ok b, s'') := by
  rw [runOn_bind]
  rcases x.runOn s with ⟨failure | a, s'⟩
  · simp
  · constructor
    · intro h
      exact ⟨a, s', rfl, h⟩
    · rintro ⟨_, _, same, h⟩
      cases same
      exact h

@[simp] theorem runOn_get (s : σ) : (get : Action σ σ).runOn s = (.ok s, s) := rfl

@[simp] theorem runOn_modify (f : σ → σ) (s : σ) :
    (modify f : Action σ PUnit).runOn s = (.ok (), f s) := rfl

@[simp] theorem runOn_ofRun (run : σ → Except Failure α × σ) (s : σ) :
    (ofRun run).runOn s = run s := rfl

@[simp] theorem runOn_outcome (x : Action σ α) (s : σ) :
    x.outcome.runOn s = (.ok (x.runOn s).1, (x.runOn s).2) := rfl

@[simp] theorem runOn_onSecond (x : Action τ α) (s : σ × τ) :
    (x.onSecond : Action (σ × τ) α).runOn s = ((x.runOn s.2).1, (s.1, (x.runOn s.2).2)) := rfl

theorem runOn_onSecond_eq {x : Action τ α} {s s' : σ × τ} :
    (x.onSecond : Action (σ × τ) α).runOn s = (result, s') ↔
      x.runOn s.2 = (result, s'.2) ∧ s.1 = s'.1 := by
  obtain ⟨first, second⟩ := s'
  rw [runOn_onSecond]
  rcases x.runOn s.2 with ⟨found, after⟩
  simp only [Prod.mk.injEq]
  constructor
  · rintro ⟨rfl, rfl, rfl⟩
    exact ⟨⟨rfl, rfl⟩, rfl⟩
  · rintro ⟨⟨rfl, rfl⟩, rfl⟩
    exact ⟨rfl, rfl, rfl⟩

@[simp] theorem runOn_withFresh (fresh : σ) (x : Action (σ × τ) α) (s : τ) :
    (x.withFresh fresh).runOn s = ((x.runOn (fresh, s)).1, (x.runOn (fresh, s)).2.2) := rfl

@[simp] theorem runOn_ofExcept (r : Except Failure α) (s : σ) :
    (ofExcept r : Action σ α).runOn s = (r, s) := rfl

-- ---------------------------------------------------------------------------
-- What an action keeps
-- ---------------------------------------------------------------------------

def Keeps (part : σ → τ) (x : Action σ α) : Prop := ∀ s, part (x.runOn s).2 = part s

namespace Keeps

variable {part : σ → τ}

theorem pure (a : α) : Keeps part (Pure.pure a : Action σ α) := fun _ => rfl

theorem throw (failure : Failure) : Keeps part (throw failure : Action σ α) := fun _ => rfl

theorem ofExcept (result : Except Failure α) : Keeps part (ofExcept result : Action σ α) :=
  fun _ => rfl

theorem modify {f : σ → σ} (h : ∀ s, part (f s) = part s) :
    Keeps part (modify f : Action σ PUnit) := h

theorem bind {x : Action σ α} {f : α → Action σ β} (hx : Keeps part x)
    (hf : ∀ a, Keeps part (f a)) : Keeps part (x >>= f) := by
  intro s
  have kept := hx s
  rw [runOn_bind]
  rcases h : x.runOn s with ⟨failure | a, s'⟩ <;> rw [h] at kept
  · exact kept
  · exact (hf a s').trans kept

end Keeps

-- ---------------------------------------------------------------------------
-- What an action adds
-- ---------------------------------------------------------------------------

/-- Every run of an action adds items to the end of a list in the state, all of
an allowed kind. -/
def Adds (part : σ → List β) (allowed : β → Bool) (x : Action σ α) : Prop :=
  ∀ s, ∃ added, part (x.runOn s).2 = part s ++ added ∧ ∀ b ∈ added, allowed b = true

namespace Adds

variable {part : σ → List β} {allowed : β → Bool}

theorem of_keeps {x : Action σ α} (h : Keeps part x) : Adds part allowed x := fun s =>
  ⟨[], by rw [h s, List.append_nil], nofun⟩

theorem pure (a : α) : Adds part allowed (Pure.pure a) := of_keeps (.pure a)

theorem ofExcept (result : Except Failure α) : Adds part allowed (ofExcept result) :=
  of_keeps (.ofExcept result)

theorem bind {x : Action σ α} {f : α → Action σ γ} (hx : Adds part allowed x)
    (hf : ∀ a, Adds part allowed (f a)) : Adds part allowed (x >>= f) := by
  intro s
  obtain ⟨added, grown, fine⟩ := hx s
  rw [runOn_bind]
  rcases h : x.runOn s with ⟨failure | a, s'⟩ <;> rw [h] at grown
  · exact ⟨added, grown, fine⟩
  · obtain ⟨later, grownLater, fineLater⟩ := hf a s'
    refine ⟨added ++ later, ?_, List.forall_mem_append.mpr ⟨fine, fineLater⟩⟩
    rw [grownLater, grown, List.append_assoc]

theorem outcome {x : Action σ α} (hx : Adds part allowed x) : Adds part allowed x.outcome := hx

end Adds

-- ---------------------------------------------------------------------------
-- What an action answers
-- ---------------------------------------------------------------------------

def Answers (x : Action σ α) (a : α) : Prop := ∀ s, (x.runOn s).1 = .ok a

namespace Answers

theorem pure (a : α) : Answers (Pure.pure a : Action σ α) a := fun _ => rfl

theorem modify (f : σ → σ) : Answers (modify f : Action σ PUnit) () := fun _ => rfl

theorem bind {x : Action σ α} {f : α → Action σ β} (hx : Answers x a)
    (hf : Answers (f a) b) : Answers (x >>= f) b := by
  intro s
  have answer := hx s
  rw [Action.runOn_bind]
  rcases h : x.runOn s with ⟨failure | found, s'⟩ <;> rw [h] at answer <;> cases answer
  exact hf s'

end Answers

end PatchReview.Action
