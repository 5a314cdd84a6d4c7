import PatchReview.Issue
import PatchReview.Json.Standard

/-!
# Reviews and reports

A review is what a provider writes about the findings. A report joins the
findings, counts and timing of one run with the review, if there is one.
-/

namespace PatchReview

def Category.distinct (found : List Category) : List Category := all.filter found.contains

structure Review where
  comment : String
  confidence : Binary64
  categories : List Category
  deriving DecidableEq, Repr

namespace Review

def checkComment : Schema.Check String := fun value =>
  (Schema.Check.text value).andThen fun comment =>
    if (Text.strip comment.toList).isEmpty then .fail (.condition "comment must not be empty")
    else .valid comment

/-- Only numbers are taken, neither truth values nor numeric strings. -/
def checkConfidence : Schema.Check Binary64 := fun value =>
  match value with
  | .int _ | .num _ =>
    (Schema.Check.number value).andThen fun confidence =>
      if !confidence.le (.ofNat 1) then .fail (.atMost 1)
      else if !(Binary64.ofNat 0).le confidence then .fail (.atLeast 0)
      else .valid confidence
  | _ => .fail (.condition "confidence must be a number")

def checkCategories : Schema.Check (List Category) := fun value =>
  (Schema.Check.items .set Category.check value).map Category.distinct

def ofFields (fields : List (String × Json)) : Schema.Checked Review :=
  Review.mk <$> Schema.required "comment" checkComment fields
    <*> Schema.required "confidence" checkConfidence fields
    <*> Schema.required "categories" checkCategories fields

def modelName : String := "ReviewResponse"

def check : Schema.Check Review := Schema.Check.model .document modelName ofFields

def toJson (review : Review) : Json :=
  .obj [("comment", .str review.comment), ("confidence", .num review.confidence),
    ("categories", .arr (review.categories.map (.str ·.name)))]

end Review

structure Summary where
  filesAnalyzed : Int
  totalIssues : Int
  highSeverity : Int
  mediumSeverity : Int
  lowSeverity : Int
  reviewSeconds : Binary64
  llmUsed : Bool
  provider : Option String
  modelName : Option String
  deriving DecidableEq, Repr

namespace Summary

def ofFields (fields : List (String × Json)) : Schema.Checked Summary :=
  Summary.mk <$> Schema.required "files_analyzed" Schema.Check.integer fields
    <*> Schema.required "total_issues" Schema.Check.integer fields
    <*> Schema.required "high_severity" Schema.Check.integer fields
    <*> Schema.required "medium_severity" Schema.Check.integer fields
    <*> Schema.required "low_severity" Schema.Check.integer fields
    <*> Schema.required "review_time_seconds" Schema.Check.number fields
    <*> Schema.required "llm_used" Schema.Check.boolean fields
    <*> Schema.optional "provider" Schema.Check.text fields
    <*> Schema.optional "model_name" Schema.Check.text fields

def check : Schema.Check Summary := Schema.Check.model .document "ReviewSummary" ofFields

def toJson (summary : Summary) : Json :=
  .obj [("files_analyzed", .int summary.filesAnalyzed), ("total_issues", .int summary.totalIssues),
    ("high_severity", .int summary.highSeverity), ("medium_severity", .int summary.mediumSeverity),
    ("low_severity", .int summary.lowSeverity),
    ("review_time_seconds", .num summary.reviewSeconds), ("llm_used", .bool summary.llmUsed),
    ("provider", .ofOption .str summary.provider), ("model_name", .ofOption .str summary.modelName)]

end Summary

structure Report where
  issues : List Issue
  summary : Summary
  review : Option Review
  metadata : List (String × Json)
  deriving Repr

namespace Report

/-- Metadata may be left out but is never null. -/
def ofFields (fields : List (String × Json)) : Schema.Checked Report :=
  let metadata : Schema.Checked (List (String × Json)) :=
    match fields.lookup "metadata" with
    | some value => (Schema.Check.dictionary value).under (.field "metadata")
    | none => .valid []
  Report.mk <$> Schema.required "issues" (Schema.Check.items .list Issue.check) fields
    <*> Schema.required "summary" Summary.check fields
    <*> Schema.optional "review" Review.check fields
    <*> metadata

def check : Schema.Check Report := Schema.Check.model .document "ReviewOutput" ofFields

def depthLimit : Nat := 255

def isWritable (report : Report) : Bool := Json.fieldsDepth report.metadata ≤ depthLimit

def tooDeepText : String := "Maximum serialization depth exceeded"

/-- The report as JSON, with null for what is not finite in the metadata. -/
def toJson (report : Report) : Json :=
  .obj [("issues", .arr (report.issues.map (·.toJson))), ("summary", report.summary.toJson),
    ("review", .ofOption (·.toJson) report.review), ("metadata", .obj (Json.standardFields report.metadata))]

end Report

end PatchReview
