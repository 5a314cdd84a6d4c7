import PatchReview.Proofs.Analyzer
import PatchReview.Proofs.Provider.Calls
import PatchReview.Reviewing

/-!
# Reviews that fail

A review with findings asks the provider once, for the prompt of all findings.
If that call fails, the whole review fails with the same failure
(`runOn_reviewFiles_error`).
-/

namespace PatchReview

open PatchReview.Action (runOn_bind_ok runOn_bind_error)

theorem exists_analyzeFiles (pool : Pool) (files : List ChangedFile) (session : Session) :
    ∃ after, (analyzeFiles pool Analyzer.builtIn files).runOn session =
        (.ok (findings Analyzer.builtIn files), after) ∧
      after.modelReplies = session.modelReplies :=
  ⟨_, Prod.ext (answers_analyzeFiles pool Analyzer.builtIn files session) rfl,
    keeps_analyzeFiles Session.modelReplies (fun _ _ _ => rfl) pool Analyzer.builtIn files session⟩

def Call.forFiles (provider : Remote) (files : List ChangedFile) (queue : List ModelReply) : Call :=
  .of provider (Prompt.build (findings Analyzer.builtIn files) files) queue

theorem writeReview_error {provider : Remote} {failure : Failure} (ready : provider.IsReady)
    (session : Session) (found : issues ≠ [])
    (failed : (Call.of provider (Prompt.build issues files) session.modelReplies).result provider =
      .error failure) :
    ∃ after, (writeReview files issues (some (.remote provider)) true).runOn session =
      (.error failure, after) := by
  obtain ⟨after, call⟩ :=
    provider.exists_runOn_generate ready (Prompt.build issues files) {} session
  rw [failed] at call
  have once : (Provider.generateOnce (.remote provider) (Prompt.build issues files)).runOn session =
      (.error failure, after.2) := by
    rw [Provider.generateOnce, Action.runOn_withFresh, Provider.generate, call]
  refine ⟨after.2, ?_⟩
  unfold writeReview
  rw [if_neg (by decide), if_neg (by simpa using found)]
  exact runOn_bind_error once

theorem runOn_reviewFiles_error {provider : Remote} {failure : Failure} (ready : provider.IsReady)
    (pool : Pool) (found : findings Analyzer.builtIn files ≠ [])
    (failed : (Call.forFiles provider files session.modelReplies).result provider =
      .error failure) :
    ∃ after, (reviewFiles pool files (some (.remote provider)) true).runOn session =
      (.error failure, after) := by
  obtain ⟨started, timed, reads, same⟩ := session.exists_runOn_readClock
  obtain ⟨analyzed, finds, same'⟩ := exists_analyzeFiles pool files timed
  rw [← same, ← same'] at failed
  obtain ⟨after, asks⟩ := writeReview_error ready analyzed found failed
  refine ⟨after, ?_⟩
  unfold reviewFiles
  rw [runOn_bind_ok reads, runOn_bind_ok finds, runOn_bind_error asks]

end PatchReview
