import PatchReview.Analyzer
import PatchReview.Proofs.Pool

/-!
# What the analyzers find

Analyzing files gives the findings of every analyzer on every file that has
contents, in the order of the files and analyzers, whatever the pool
(`answers_analyzeFiles`). An analyzer that fails on a file contributes nothing
for it. All that analyzing does to a session is to add to its log.
-/

namespace PatchReview

open PatchReview.Action (Answers Keeps)

def Analyzer.contribution (analyzer : Analyzer) (file : ChangedFile) : List Issue :=
  match analyzer.analyze file with
  | .ok issues => issues
  | .error _ => []

/-- The issues of all files by some analyzers. -/
def findings (analyzers : List Analyzer) (files : List ChangedFile) : List Issue :=
  ((files.filter (·.text?.isSome)).map fun file =>
    analyzers.flatMap (·.contribution file)).flatten

theorem answers_analyzeFile (analyzers : List Analyzer) (file : ChangedFile) :
    Answers (analyzeFile analyzers file) (analyzers.flatMap (·.contribution file)) := by
  induction analyzers with
  | nil => exact .pure _
  | cons analyzer rest ih =>
    unfold analyzeFile
    rw [List.flatMap_cons, Analyzer.contribution]
    cases analyzer.analyze file with
    | ok issues => exact ih.bind (.pure _)
    | error failure => exact (Answers.modify _).bind ih

theorem answers_analyzeFiles (pool : Pool) (analyzers : List Analyzer) (files : List ChangedFile) :
    Answers (analyzeFiles pool analyzers files) (findings analyzers files) :=
  (Pool.answers_map _ pool (answers_analyzeFile analyzers)).bind
    ((Answers.modify _).bind (.pure _))

section
variable (part : Session → α)
  (noted : ∀ level text session, part (Session.note level text session) = part session)

include noted

theorem keeps_analyzeFile (analyzers : List Analyzer) (file : ChangedFile) :
    Keeps part (analyzeFile analyzers file) := by
  induction analyzers with
  | nil => exact .pure _
  | cons analyzer rest ih =>
    unfold analyzeFile
    split
    · exact ih.bind fun _ => .pure _
    · exact (Keeps.modify (noted _ _)).bind fun _ => ih

theorem keeps_analyzeFiles (pool : Pool) (analyzers : List Analyzer) (files : List ChangedFile) :
    Keeps part (analyzeFiles pool analyzers files) :=
  (Pool.keeps_map pool (keeps_analyzeFile part noted analyzers) _).bind fun _ =>
    (Keeps.modify (noted _ _)).bind fun _ => .pure _

end

end PatchReview
