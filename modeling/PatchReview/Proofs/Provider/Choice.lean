import PatchReview.Proofs.Session
import PatchReview.Provider.Basic

/-!
# The choice of a provider

Choosing always gives a provider, one of the project, and does nothing to a
session but log an unknown name.
-/

namespace PatchReview.Provider

/-- Whether a provider is one of the project and not of the caller's own. -/
def isBuiltIn : Provider → Bool
  | mock _ | remote _ => true
  | custom _ => false

def chosen (wanted apiKey baseUrl usedModel : Option String) : Provider :=
  ofKind apiKey baseUrl usedModel ((kind? wanted).getD .mock)

theorem isBuiltIn_chosen (wanted apiKey baseUrl usedModel : Option String) :
    (chosen wanted apiKey baseUrl usedModel).isBuiltIn = true := by
  unfold chosen
  cases (kind? wanted).getD .mock <;> rfl

theorem exists_lines_choose (wanted apiKey baseUrl usedModel : Option String) :
    ∃ lines, ∀ session, (choose wanted apiKey baseUrl usedModel).runOn session =
      (.ok (chosen wanted apiKey baseUrl usedModel), session.advance 0 [] lines) := by
  unfold choose chosen
  cases kind? wanted with
  | some kind => exact ⟨[], fun session => by rw [Session.advance_zero]; rfl⟩
  | none => exact ⟨[⟨.warning, _⟩], fun session => by rw [← Session.note_eq_advance]; rfl⟩

theorem exists_runOn_choose (wanted apiKey baseUrl usedModel : Option String) (session : Session) :
    ∃ after, (choose wanted apiKey baseUrl usedModel).runOn session =
        (.ok (chosen wanted apiKey baseUrl usedModel), after) ∧
      after.modelReplies = session.modelReplies := by
  obtain ⟨lines, chooses⟩ := exists_lines_choose wanted apiKey baseUrl usedModel
  exact ⟨_, chooses session, rfl⟩

end PatchReview.Provider
