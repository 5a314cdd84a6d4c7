import PatchReview.Analyzer
import PatchReview.Prompt
import PatchReview.Provider.Basic

/-!
# Reviewing a pull request

The analyzers run first. If they find anything and a model may be used, a
provider writes a review of the findings; its failure is the failure of the
whole run. The report counts the findings and times the run.
-/

namespace PatchReview

def countOf (severity : Severity) (issues : List Issue) : Nat :=
  issues.countP (·.severity == severity)

def Summary.of (files : List ChangedFile) (issues : List Issue) (elapsed : Binary64)
    (provider : Option Provider) : Summary where
  filesAnalyzed := files.countP (·.text?.isSome)
  totalIssues := issues.length
  highSeverity := countOf .high issues
  mediumSeverity := countOf .medium issues
  lowSeverity := countOf .low issues
  reviewSeconds := elapsed.roundHundredths
  llmUsed := provider.isSome
  provider := provider.map (·.name)
  modelName := provider.bind (·.model)

/-- The review of the findings and the provider that wrote it, if one is due. -/
def writeReview (files : List ChangedFile) (issues : List Issue) (provider : Option Provider)
    (useModel : Bool) : Action Session (Option (Provider × Review)) :=
  if !useModel then do
    Session.info "LLM disabled - returning rule-based findings only"
    return none
  else if issues.isEmpty then do
    Session.info "No issues found, skipping AI review"
    return none
  else do
    let used := provider.getD (.mock (.zero false))
    let review ← used.generateOnce (Prompt.build issues files)
    Session.info s!"Generated AI review (confidence {review.confidence.fixed})"
    return some (used, review)

def reviewFiles (pool : Pool) (files : List ChangedFile) (provider : Option Provider)
    (useModel : Bool) : Action Session Report := do
  let started ← Session.readClock
  let issues ← analyzeFiles pool Analyzer.builtIn files
  let written ← writeReview files issues provider useModel
  let ended ← Session.readClock
  let used := written.map (·.1)
  return {
    issues := issues
    summary := .of files issues (ended.sub started) used
    review := written.map (·.2)
    metadata := [("prompt_version", .str Prompt.version),
      ("llm_provider", .ofOption .str (used.map (·.name)))] }

end PatchReview
