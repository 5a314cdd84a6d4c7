import PatchReview.Proofs.Reviewing.Effect
import PatchReview.Proofs.Server

/-!
# What a review is answered with

A request for a review makes the server choose a provider and review the files
(`exists_runOn_review`). A body is the report in standard JSON, and a problem
tells a failure of the review; after either the server does nothing more. The
report is standard JSON as it is exactly if the time that it took is a finite
number (`Report.standard_toJson_eq_self_iff`).
-/

namespace PatchReview

open PatchReview.Action (runOn_bind_ok)

-- ---------------------------------------------------------------------------
-- Standard JSON
-- ---------------------------------------------------------------------------

namespace Json

mutual
theorem standard_of_isStandard : (value : Json) → value.isStandard = true → value.standard = value
  | .null, _ | .bool _, _ | .int _, _ | .str _, _ => rfl
  | .num _, finite => if_pos finite
  | .arr items, standard => congrArg arr (standardItems_of_areStandard items standard)
  | .obj fields, standard => congrArg obj (standardFields_of_haveStandard fields standard)
theorem standardItems_of_areStandard :
    (items : List Json) → areStandard items = true → standardItems items = items
  | [], _ => rfl
  | item :: rest, standard => by
    obtain ⟨first, others⟩ := Bool.and_eq_true_iff.mp standard
    rw [standardItems, standard_of_isStandard item first, standardItems_of_areStandard rest others]
theorem standardFields_of_haveStandard : (fields : List (String × Json)) →
    haveStandard fields = true → standardFields fields = fields
  | [], _ => rfl
  | (_, value) :: rest, standard => by
    obtain ⟨first, others⟩ := Bool.and_eq_true_iff.mp standard
    rw [standardFields, standard_of_isStandard value first,
      standardFields_of_haveStandard rest others]
end

theorem standard_eq_self_iff (value : Json) : value.standard = value ↔ value.isStandard = true := by
  refine ⟨fun same => ?_, standard_of_isStandard value⟩
  rw [← same]
  exact isStandard_standard value

theorem isStandard_ofOption (inject : α → Json) (value : Option α)
    (h : ∀ a ∈ value, (inject a).isStandard = true) : (ofOption inject value).isStandard = true := by
  cases value with
  | none => rfl
  | some a => exact h a rfl

theorem areStandard_map_of {f : α → Json} (h : ∀ a, (f a).isStandard = true) (l : List α) :
    areStandard (l.map f) = true := by
  induction l with
  | nil => rfl
  | cons a rest ih => simp [areStandard, h, ih]

end Json

open Json (isStandard_ofOption areStandard_map_of)

theorem Issue.isStandard_toJson (issue : Issue) : issue.toJson.isStandard = true := by
  have line := isStandard_ofOption .int issue.line fun _ _ => rfl
  have suggestion := isStandard_ofOption .str issue.suggestion fun _ _ => rfl
  simp [Issue.toJson, Json.isStandard, Json.haveStandard, line, suggestion]

theorem Summary.isStandard_toJson (summary : Summary) :
    summary.toJson.isStandard = summary.reviewSeconds.isFinite := by
  have provider := isStandard_ofOption .str summary.provider fun _ _ => rfl
  have model := isStandard_ofOption .str summary.modelName fun _ _ => rfl
  simp [Summary.toJson, Json.isStandard, Json.haveStandard, provider, model]

theorem Binary64.isFinite_of_toRat? {x : Binary64} (h : x.toRat? = some q) : x.isFinite = true := by
  cases x <;> first | rfl | cases h

theorem Review.isStandard_toJson {review : Review} (inSchema : review.InSchema) :
    review.toJson.isStandard = true := by
  obtain ⟨share, number, -⟩ := inSchema.confidence
  have confidence := Binary64.isFinite_of_toRat? number
  have categories := areStandard_map_of (f := fun category : Category => .str category.name)
    (fun _ => rfl) review.categories
  simp [Review.toJson, Json.isStandard, Json.haveStandard, confidence, categories]

theorem Report.standard_toJson_eq_self_iff {report : Report} (inSchema : report.InSchema) :
    report.toJson.standard = report.toJson ↔ report.summary.reviewSeconds.isFinite = true := by
  have issues := areStandard_map_of Issue.isStandard_toJson report.issues
  have summary := report.summary.isStandard_toJson
  have review := isStandard_ofOption Review.toJson report.review fun review written =>
    Review.isStandard_toJson (inSchema review written)
  have metadata := Json.haveStandard_standardFields report.metadata
  rw [Json.standard_eq_self_iff]
  simp [Report.toJson, Json.isStandard, Json.haveStandard, issues, summary, review, metadata]

-- ---------------------------------------------------------------------------
-- Answers
-- ---------------------------------------------------------------------------

namespace Server

def providerFor (order : ReviewOrder) (settings : Settings) : Provider :=
  .chosen (some settings.provider) settings.apiKey settings.baseUrl
    ((nonEmpty order.model).or settings.model)

theorem exists_runOn_review (order : ReviewOrder) (anyFiles : order.files ≠ [])
    (configured : Settings.ofEnvironment session.environment order.provider = .ok settings) :
    ∃ lines, (review order).runOn session =
      let reviewed := (reviewFiles (.inOrder settings.maxWorkers) order.files
        (some (providerFor order settings)) true).runOn (session.advance 0 [] lines)
      (answerOf reviewed.1).runOn reviewed.2 := by
  obtain ⟨lines, chooses⟩ := Provider.exists_lines_choose (some settings.provider) settings.apiKey
    settings.baseUrl ((nonEmpty order.model).or settings.model)
  refine ⟨lines, ?_⟩
  unfold review
  rw [if_neg (by simpa using anyFiles), runOn_bind_ok (Action.runOn_get _),
    runOn_bind_ok (by rw [Action.runOn_ofExcept, configured]), runOn_bind_ok (chooses session),
    runOn_bind_ok (Action.runOn_outcome _ _)]
  rfl

theorem exists_settings_of_review (h : (review order).runOn session = (.ok response, after))
    (fine : response.status ≠ 400) : order.files ≠ [] ∧
      ∃ settings, Settings.ofEnvironment session.environment order.provider = .ok settings := by
  have anyFiles : order.files ≠ [] := by
    intro noneThere
    rw [review, noneThere] at h
    cases h
    exact fine rfl
  refine ⟨anyFiles, ?_⟩
  rw [review, if_neg (by simpa using anyFiles), runOn_bind_ok (Action.runOn_get _)] at h
  cases configured : Settings.ofEnvironment session.environment order.provider with
  | ok settings => exact ⟨settings, rfl⟩
  | error failure =>
    rw [configured] at h
    cases h

variable {result : Except Failure Report}

theorem answerOf_eq_ok (h : (answerOf result).runOn session = (.ok (.ok body), after)) :
    ∃ report, result = .ok report ∧ body = report.toJson.standard ∧ after = session := by
  cases result with
  | ok report =>
    rw [answerOf, respond] at h
    split at h
    · cases h
    · cases h
      exact ⟨report, rfl, rfl, rfl⟩
  | error failure =>
    rw [answerOf, tell] at h
    split at h
    · cases checked : checkEncoding (.obj [("detail", .str failure.message)]) <;>
        rw [checked] at h <;> cases h
    · cases h

theorem answerOf_eq_problem
    (h : (answerOf result).runOn session = (.ok (.problem status detail), after)) :
    ∃ failure, result = .error failure ∧ failure.isReviewing = true ∧ detail = failure.message ∧
      after = session := by
  cases result with
  | ok report =>
    rw [answerOf, respond] at h
    split at h <;> cases h
  | error failure =>
    rw [answerOf, tell] at h
    split at h
    · next reviewing =>
      cases checked : checkEncoding (.obj [("detail", .str failure.message)]) <;>
        rw [checked] at h <;> cases h
      exact ⟨failure, rfl, reviewing, rfl, rfl⟩
    · cases h

end Server

end PatchReview
