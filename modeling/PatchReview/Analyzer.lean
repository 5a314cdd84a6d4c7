import PatchReview.ChangedFile
import PatchReview.Pool
import PatchReview.Rule.Tables
import PatchReview.Session

/-!
# Analyzers

An analyzer lists the issues of one file. The built-in ones run the rule table
of a category. An analyzer that fails on a file is logged and contributes
nothing for it. Files may be analyzed by a pool of workers.
-/

namespace PatchReview

structure Analyzer where
  name : String
  analyze : ChangedFile → Except Failure (List Issue)

def Failure.ofRuleFault : RuleFault → Failure
  | .noContents | .template .noItem | .template .noLayout => .wrongKind
  | .template .noPart => .noOperation
  | .template fault => .template fault

def Finding.toIssue (category : Category) (file : String) (finding : Finding Severity) : Issue :=
  ⟨category, finding.severity, file, finding.line.map Int.ofNat, finding.message,
    finding.suggestion⟩

/-- The issue of a finding by a rule whose labels are text, which have to name a
category and a severity. -/
def Finding.checkIssue (category file : String) (finding : Finding String) : Schema.Checked Issue :=
  Issue.ofFields [("type", .str category), ("severity", .str finding.severity), ("file", .str file),
    ("line", .ofOption (fun line : Nat => .int line) finding.line), ("message", .str finding.message),
    ("suggestion", .ofOption .str finding.suggestion)]

def Rule.issue? (category : Category) (file : ChangedFile) (rule : Rule Severity) :
    Except RuleFault (Option Issue) := do
  let found ← rule.evaluate file.filename (file.contents.map (·.toList))
  return found.map (Finding.toIssue category file.filename)

def issuesOf (category : Category) (file : ChangedFile) :
    List (Rule Severity) → Except RuleFault (List Issue)
  | [] => .ok []
  | rule :: rest => do
    let first ← rule.issue? category file
    let others ← issuesOf category file rest
    return first.toList ++ others

namespace Analyzer

def ofTable (category : Category) : Analyzer where
  name := category.name
  analyze file :=
    match file.text? with
    | none => .ok []
    | some _ => (issuesOf category file (rulesFor category)).mapError Failure.ofRuleFault

def builtIn : List Analyzer := Category.all.map ofTable

/-- The issues of a file by every analyzer in turn, unless one fails. -/
def analyzeAll (file : ChangedFile) : List Analyzer → Except Failure (List Issue)
  | [] => .ok []
  | analyzer :: rest => do
    let first ← analyzer.analyze file
    let others ← analyzeAll file rest
    return first ++ others

end Analyzer

/-- The issues of a file by all built-in rules. -/
def allIssues (file : ChangedFile) : Except Failure (List Issue) :=
  Analyzer.analyzeAll file Analyzer.builtIn

def analyzeFile (analyzers : List Analyzer) (file : ChangedFile) : Action Session (List Issue) :=
  match analyzers with
  | [] => return []
  | analyzer :: rest =>
    match analyzer.analyze file with
    | .ok issues => do
      let others ← analyzeFile rest file
      return issues ++ others
    | .error _ => do
      Session.logError s!"{analyzer.name} analyzer failed on {file.filename} - skipping"
      analyzeFile rest file

/-- The issues of all files that have contents, in the order of the files. -/
def analyzeFiles (pool : Pool) (analyzers : List Analyzer) (files : List ChangedFile) :
    Action Session (List Issue) := do
  let analyzable := files.filter (·.text?.isSome)
  let perFile ← pool.map (analyzeFile analyzers) analyzable
  let issues := perFile.flatten
  Session.info
    s!"Analyzed {analyzable.length} file(s), found {issues.length} potential issue(s)"
  return issues

end PatchReview
