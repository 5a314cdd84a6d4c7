import PatchReview.Proofs.CommandLine.Loading
import PatchReview.Proofs.Disk
import PatchReview.Proofs.Provider.Trace

/-!
# What delivering shows

A run with files reviews them and delivers the report. Delivering shows nothing
outside, or posts the review, as the last thing it does, from a state in which
whatever was to be printed and saved is so (`trace_deliver`).
-/

namespace PatchReview

open PatchReview.Action (Adds Keeps runOn_bind runOn_bind_ok runOn_bind_eq_ok)

namespace CommandLine

variable (options : Options) (settings : Settings) (files : List ChangedFile)

variable {options settings files}

theorem keeps_print (text : String) : Keeps Session.trace (Session.print text) :=
  .modify fun _ => rfl

theorem keeps_makeDirectories (path : Path) : Keeps Session.trace (makeDirectories path) := by
  refine (keeps_checkPath _).bind fun _ => ?_
  intro session
  rw [runOn_bind_ok (Action.runOn_get session)]
  rcases session.disk.makeDirectories path with ⟨disk, _ | fault⟩ <;> rfl

theorem keeps_writeFile (path : String) (octets : List UInt8) :
    Keeps Session.trace (writeFile path octets) := by
  refine (keeps_checkPath _).bind fun _ => ?_
  intro session
  rw [runOn_bind_ok (Action.runOn_get session)]
  cases session.disk.write path octets <;> rfl

theorem keeps_saveReport (report : Report) (path : String) :
    Keeps Session.trace (saveReport report path) :=
  (keeps_makeDirectories _).bind fun _ => (keeps_writeFile _ _).bind fun _ => keeps_print _

theorem read_of_saveReport (h : (saveReport report path).runOn session = (.ok (), saved)) :
    saved.disk.read path = .ok (Utf8.encode report.toJson.indented.toList) := by
  obtain ⟨_, _, -, h⟩ := runOn_bind_eq_ok.mp h
  obtain ⟨_, written, writes, h⟩ := runOn_bind_eq_ok.mp h
  cases h
  obtain ⟨_, before, -, writes⟩ := runOn_bind_eq_ok.mp writes
  rw [runOn_bind_ok (Action.runOn_get before)] at writes
  cases done : before.disk.write path (Utf8.encode report.toJson.indented.toList) with
  | error fault =>
    rw [done] at writes
    cases writes
  | ok disk =>
    rw [done] at writes
    cases writes
    exact Disk.read_write done

def saveAsked (options : Options) (report : Report) : Action Session Unit :=
  match nonEmpty options.output with
  | some path => saveReport report path
  | none => pure ()

theorem deliver_eq (options : Options) (pullRequest : Option PullRequest) (report : Report) :
    deliver options pullRequest report =
      (printLines (ReportText.lines report) >>= fun _ => saveAsked options report >>= fun _ =>
        if options.post then postReview pullRequest report else pure ()) := by
  unfold deliver saveAsked
  cases nonEmpty options.output <;> rfl

def PullRequest.commentRequest (target : PullRequest) (review : Review) : HostRequest :=
  ⟨.post, target.host.apiUrl ++
      s!"/repos/{target.repo.display}/issues/{target.number.display}/comments",
    none, some (.obj [("body", .str review.comment)]), target.host.headers, Host.timeout⟩

/-- The states from which the review of a report is printed, saved if that was
asked for, and posted, one from the other. The report can be read in the one
that the post is sent from, and the post leaves the disk alone. -/
structure Posts (options : Options) (target : PullRequest) (report : Report) (found : Review)
    (reviewed printed saved posted : Session) : Prop where
  wanted : options.post = true
  written : report.review = some found
  prints : (printLines (ReportText.lines report)).runOn reviewed = (.ok (), printed)
  saves : (saveAsked options report).runOn printed = (.ok (), saved)
  isSaved : ∀ path ∈ nonEmpty options.output,
    saved.disk.read path = .ok (Utf8.encode report.toJson.indented.toList)
  notShown : saved.trace = reviewed.trace
  posts : ((postReview (some target) report).runOn saved).2 = posted
  shown : posted.trace = saved.trace ++ [.hostAsked (target.commentRequest found)]
  sameDisk : posted.disk = saved.disk

end CommandLine

end PatchReview
