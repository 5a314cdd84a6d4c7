import PatchReview.Number.Decimal
import PatchReview.Report

/-!
# Reports as text

The summary for people: counts and timing, then every issue, then the review.
-/

namespace PatchReview.ReportText

def rule (c : Char) : String := String.ofList (List.replicate 60 c)

def title (text : String) : List String := ["\n" ++ rule '-', text, rule '-']

def shownModel (model : Option String) : String :=
  match model with
  | some name => if name.isEmpty then "" else s!" ({name})"
  | none => ""

def providerLine (summary : Summary) : List String :=
  match summary.provider with
  | some name => if name.isEmpty then [] else [s!"Provider: {name}{shownModel summary.modelName}"]
  | none => []

def summaryLines (summary : Summary) : List String :=
  let usage := if summary.llmUsed then "Yes" else "No (rule-based only)"
  [s!"\nFiles Analyzed: {summary.filesAnalyzed}",
    s!"Total Issues: {summary.totalIssues}",
    s!"  High Severity: {summary.highSeverity}",
    s!"  Medium Severity: {summary.mediumSeverity}",
    s!"  Low Severity: {summary.lowSeverity}",
    s!"\nReview Time: {summary.reviewSeconds.text}s",
    s!"LLM Used: {usage}"] ++ providerLine summary

/-- The place of an issue; line zero is not shown. -/
def place (issue : Issue) : String :=
  match issue.line with
  | some line => if line = 0 then issue.file else s!"{issue.file}:{line}"
  | none => issue.file

def suggestionLine (issue : Issue) : List String :=
  match issue.suggestion with
  | some text => if text.isEmpty then [] else [s!"   Suggestion: {text}"]
  | none => []

def issueLines (number : Nat) (issue : Issue) : List String :=
  [s!"\n{number}. [{issue.severity.label}] {issue.category.name}", s!"   {issue.message}",
    s!"   File: {place issue}"] ++ suggestionLine issue

def issuesFrom (number : Nat) : List Issue → List String
  | [] => []
  | issue :: rest => issueLines number issue ++ issuesFrom (number + 1) rest

def reviewLines : Option Review → List String
  | none => []
  | some review => title s!"AI REVIEW (confidence {review.confidence.fixed}):" ++ [review.comment]

def lines (report : Report) : List String :=
  ["\n" ++ rule '=', "PR REVIEW SUMMARY", rule '='] ++ summaryLines report.summary ++
    (if report.issues.isEmpty then ["\n✓ No issues found!"]
      else title "ISSUES FOUND:" ++ issuesFrom 1 report.issues) ++
    reviewLines report.review ++ ["\n" ++ rule '=']

end PatchReview.ReportText
