import PatchReview.Failure

/-!
# Actions

An action on a state either answers or fails; the state it leaves is kept in
both cases, so what was done before a failure stays visible.
-/

namespace PatchReview

abbrev Action (σ α : Type) := ExceptT Failure (StateM σ) α

namespace Action

def runOn (act : Action σ α) (state : σ) : Except Failure α × σ := (ExceptT.run act).run state

def ofRun (run : σ → Except Failure α × σ) : Action σ α := ExceptT.mk fun state => run state

def outcome (act : Action σ α) : Action σ (Except Failure α) :=
  ofRun fun state =>
    let (result, after) := act.runOn state
    (.ok result, after)

def onSecond (act : Action τ α) : Action (σ × τ) α :=
  ofRun fun (first, second) =>
    let (result, after) := act.runOn second
    (result, (first, after))

/-- An action whose state begins anew beside a given one and is dropped. -/
def withFresh (fresh : σ) (act : Action (σ × τ) α) : Action τ α :=
  ofRun fun second =>
    let (result, after) := act.runOn (fresh, second)
    (result, after.2)

def ofExcept (result : Except Failure α) : Action σ α := ofRun fun state => (result, state)

end Action

end PatchReview
