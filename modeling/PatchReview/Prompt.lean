import PatchReview.ChangedFile
import PatchReview.Issue

/-!
# The review prompt

The prompt lists the changed files and then the issues, one section a file in
the order in which files first have an issue. The answer it asks for is what a
review is checked against.
-/

namespace PatchReview.Prompt

def version : String := "v2.0"

def system : String := "\n".intercalate [
    "You are an expert code reviewer specializing in web development, accessibility, " ++
      "performance, and security. Your task is to review pull request changes and provide " ++
      "constructive feedback.",
    "",
    "Guidelines:",
    "- Be helpful and educational",
    "- Provide specific, actionable suggestions",
    "- Focus on the most important issues",
    "- Use a friendly but professional tone",
    "- Format your response in markdown",
    "- Include code examples when helpful",
    "- Prioritize issues by severity (high > medium > low)",
    "",
    "Response format: You MUST respond with valid JSON matching this schema:",
    "\x7b",
    "  \"comment\": \"Full markdown comment to post on PR\",",
    "  \"confidence\": 0.0-1.0,",
    "  \"categories\": [\"accessibility\", \"performance\", \"security\"]",
    "\x7d",
    "",
    "- comment: non-empty markdown string",
    "- confidence: number between 0.0 and 1.0",
    "- categories: only values from \"accessibility\", \"performance\", \"security\"",
    "",
    "Return ONLY the JSON object, no markdown formatting around it."]

def instructions : String := "\n".intercalate [
    "Based on these findings, please provide a comprehensive review comment that:",
    "1. Summarizes the overall code quality",
    "2. Highlights the most critical issues",
    "3. Provides specific recommendations for improvement",
    "4. Acknowledges any good practices observed",
    "",
    "Focus on being educational and helpful. If there are no significant issues, provide " ++
      "encouragement and any minor suggestions for improvement."]

def formatIssue (issue : Issue) : String :=
  let line := match issue.line with
    | some line => s!" (line {line})"
    | none => ""
  let suggestion := match issue.suggestion with
    | some text => if text.isEmpty then "" else s!"\n  💡 {text}"
    | none => ""
  s!"- {issue.category.name} ({issue.severity.name}): {issue.message}{line}{suggestion}"

/-- Adds an issue to the group of its file, which is new at the end if need be. -/
def addToGroup (issue : Issue) : List (String × List Issue) → List (String × List Issue)
  | [] => [(issue.file, [issue])]
  | (file, issues) :: rest =>
    if file = issue.file then (file, issues ++ [issue]) :: rest
    else (file, issues) :: addToGroup issue rest

def groupByFile (issues : List Issue) : List (String × List Issue) :=
  issues.foldl (fun groups issue => addToGroup issue groups) []

def fileSection (group : String × List Issue) : String :=
  s!"### `{group.1}`\n" ++ "\n".intercalate (group.2.map formatIssue)

def orElseText (text fallback : String) : String := if text.isEmpty then fallback else text

def filesSummary (files : List ChangedFile) : String :=
  "\n".intercalate (files.map fun file => s!"- `{file.filename}` ({file.status.name})")

def issuesSummary (issues : List Issue) : String :=
  "\n\n".intercalate ((groupByFile issues).map fileSection)

def build (issues : List Issue) (files : List ChangedFile) : String :=
  "\n".intercalate [
    system, "", "Please review this pull request:", "", "## Changed Files",
    orElseText (filesSummary files) "- (none)", "", "## Issues Found by Static Analysis",
    orElseText (issuesSummary issues) "No issues detected by static analysis.", "",
    instructions]

end PatchReview.Prompt
