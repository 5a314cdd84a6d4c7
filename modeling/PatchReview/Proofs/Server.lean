import Mathlib.Data.List.TakeWhile
import PatchReview.Proofs.Json.Writer
import PatchReview.Proofs.Provider.Choice
import PatchReview.Proofs.Reviewing
import PatchReview.Server

/-!
# Requests to the server

A text without surrogates can be told as a problem (`runOn_tell`). A request for
a review that asks a remote provider, and gets no review, is answered with a
problem if the failure is one of the review, and ends with the failure if not
(`Asking.review_error`).
-/

namespace PatchReview

open PatchReview.Action (runOn_bind_ok)

theorem Utf8.unencodable?_eq_none (h : Text.isBroken text = false) :
    Utf8.unencodable? text.toList = none := by
  have none_left : text.toList.dropWhile (!Text.isStandIn ·) = [] := by
    refine List.dropWhile_eq_nil_iff.mpr fun c hc => ?_
    rw [Text.isBroken_eq_false.mp h c hc]
    rfl
  rw [unencodable?, none_left]

namespace Server

theorem checkEncoding_detail (h : Text.isBroken detail = false) :
    checkEncoding (.obj [("detail", .str detail)]) = .ok () := by
  have name := Text.isBroken_append
    (Json.isBroken_denseString (s := "detail") (Text.isBroken_ofList (by decide)))
    (t := ":") (Text.isBroken_ofList (by decide))
  have field := Text.isBroken_append name (Json.isBroken_denseString h)
  have body : Text.isBroken (Json.obj [("detail", .str detail)]).dense = false := by
    simp only [Json.dense, Json.denseFields, String.intercalate_singleton]
    exact Text.isBroken_append (Text.isBroken_append (Text.isBroken_ofList (by decide)) field)
      (Text.isBroken_ofList (by decide))
  rw [checkEncoding, Utf8.unencodable?_eq_none body]

theorem runOn_tell (h : Text.isBroken detail = false) (status : Nat) (session : Session) :
    (tell status detail).runOn session = (.ok (.problem status detail), session) := by
  unfold tell
  rw [checkEncoding_detail h]
  rfl

/-- A request for a review that asks a remote provider about its files. -/
structure Asking (order : ReviewOrder) (session : Session) (provider : Remote) where
  settings : Settings
  configured : Settings.ofEnvironment session.environment order.provider = .ok settings
  uses : Provider.chosen (some settings.provider) settings.apiKey settings.baseUrl
    ((nonEmpty order.model).or settings.model) = .remote provider
  found : findings Analyzer.builtIn order.files ≠ []

namespace Asking

variable {provider : Remote} (asking : Asking order session provider) {failure : Failure}

include asking

theorem files_ne_nil : order.files ≠ [] := by
  intro none
  refine asking.found ?_
  rw [none]
  rfl

theorem review_error (ready : provider.IsReady)
    (failed : (Call.forFiles provider order.files session.modelReplies).result provider =
      .error failure) :
    ∃ after, (review order).runOn session = (answerOf (.error failure)).runOn after := by
  obtain ⟨chosen, chooses, same⟩ := Provider.exists_runOn_choose (some asking.settings.provider)
    asking.settings.apiKey asking.settings.baseUrl
    ((nonEmpty order.model).or asking.settings.model) session
  rw [← same] at failed
  obtain ⟨after, reviews⟩ := runOn_reviewFiles_error ready (.inOrder asking.settings.maxWorkers)
    asking.found failed
  refine ⟨after, ?_⟩
  unfold review
  rw [if_neg (by simpa using asking.files_ne_nil), runOn_bind_ok (Action.runOn_get _),
    runOn_bind_ok (by rw [Action.runOn_ofExcept, asking.configured]), runOn_bind_ok chooses,
    asking.uses, runOn_bind_ok (by rw [Action.runOn_outcome, reviews])]

end Asking

end Server

end PatchReview
