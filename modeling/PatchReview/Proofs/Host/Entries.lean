import PatchReview.Host.Listing
import PatchReview.Proofs.Host.Requests

/-!
# The entries of a listing

Contents that the host sends, refuses or does not have come back as a text or
as none; only the log tells the difference. A path that cannot be encoded is
never asked for. So of the entries of a page, those are asked for that are
listed, were not removed and have a name that can be encoded, in their order
(`exchanges_listEntries`).
-/

namespace PatchReview.Host

open PatchReview.Action (runOn_bind runOn_bind_ok runOn_bind_error)

-- ---------------------------------------------------------------------------
-- Contents
-- ---------------------------------------------------------------------------

/-- The replies to a request for contents, and what they come to: a readable
text, nothing where there is none, nothing where the host refuses or is not
reached. -/
inductive Answers : HostReply → Option String → Prop
  | refused (h : Http.isErrorStatus status = true) : Answers (.http status reason body) none
  | lost : Answers (.raised (.request kind detail)) none
  | sent (fine : Http.isErrorStatus status = false) (read : Json.read body.toList = .ok answer)
    (contents : contentsOf answer = .ok found) : Answers (.http status reason body) found

def contentsPlace (repo : Json) (path : String) : String :=
  s!"/repos/{repo.display}/contents/{String.ofList (Percent.encode path.toList)}"

def contentsRequest (host : Host) (repo : Json) (path : String) (ref : Json) : HostRequest :=
  ⟨.get, host.apiUrl ++ contentsPlace repo path, some [("ref", ref)], none, host.headers, timeout⟩

theorem jsonBody_eq_ok (h : Json.read body.toList = .ok found) : jsonBody body = .ok found := by
  rw [jsonBody, h]
  rfl

theorem runOn_fileContents (encodable : Utf8.unencodable? path.toList = none) (host : Host)
    (repo ref : Json) (session : Session) :
    (host.fileContents repo path ref).runOn session =
      (((bodyOf .get (contentsPlace repo path) (session.hostReplies.headD nothingFound)).bind
          jsonBody).bind contentsOf,
        session.served session.hostReplies.tail [host.contentsRequest repo path ref] []) := by
  have place : contentsPath repo path = .ok (contentsPlace repo path) := by
    rw [contentsPath, encodable]
    rfl
  rw [fileContents, place, runOn_bind_ok (Action.runOn_ofExcept _ _), runOn_bind, runOn_request]
  cases (bodyOf .get (contentsPlace repo path) (session.hostReplies.headD nothingFound)).bind
    jsonBody <;> rfl

theorem runOn_fileContents_of_unencodable (fault : Utf8.unencodable? path.toList = some f)
    (host : Host) (repo ref : Json) (session : Session) :
    (host.fileContents repo path ref).runOn session = (.error (.unencodable f), session) := by
  rw [fileContents, contentsPath, fault]
  rfl

/-- What comes of a request whose reply is one of those: the contents, or a
failure of the host, which is tolerated. -/
theorem contentsOf_of_answers (h : Answers reply found) (place : String) :
    ((bodyOf .get place reply).bind jsonBody).bind contentsOf = .ok found ∨
      found = none ∧
        ∃ fault,
          ((bodyOf .get place reply).bind jsonBody).bind contentsOf = .error (.host fault) := by
  cases h with
  | refused status => exact .inr ⟨rfl, _, by simp only [bodyOf, status, ↓reduceIte]; rfl⟩
  | lost => exact .inr ⟨rfl, _, rfl⟩
  | sent fine read contents =>
    left
    rw [bodyOf, fine, if_neg Bool.false_ne_true]
    show (jsonBody _).bind contentsOf = _
    rw [jsonBody_eq_ok read]
    exact contents

theorem runOn_contentsOrWarning_of_tolerated {host : Host} {after : Session} {failure : Failure}
    (failed : (host.fileContents repo path ref).runOn session = (.error failure, after))
    (tolerated : isTolerated failure = true) :
    (host.contentsOrWarning repo path ref).runOn session =
      (.ok none, after.note .warning s!"Failed to get contents for {path}: {failure.message}") := by
  rw [contentsOrWarning, runOn_bind_ok (Action.runOn_outcome _ _), failed]
  simp only [tolerated, ↓reduceIte]
  rfl

theorem runOn_contentsOrWarning_of_answers (encodable : Utf8.unencodable? path.toList = none)
    (next : session.hostReplies = reply :: left) (answers : Answers reply found) (host : Host)
    (repo ref : Json) :
    ∃ lines, (host.contentsOrWarning repo path ref).runOn session =
      (.ok found, session.served left [host.contentsRequest repo path ref] lines) := by
  have run := runOn_fileContents encodable host repo ref session
  rw [next] at run
  change _ = (((bodyOf .get _ reply).bind jsonBody).bind contentsOf, _) at run
  obtain got | ⟨rfl, fault, failed⟩ := contentsOf_of_answers answers (contentsPlace repo path)
  · rw [contentsOrWarning, runOn_bind_ok (Action.runOn_outcome _ _), run, got]
    exact ⟨[], rfl⟩
  · rw [failed] at run
    rw [runOn_contentsOrWarning_of_tolerated run rfl, Session.note_eq_served, Session.served_served]
    exact ⟨_, rfl⟩

/-- A path that cannot be encoded is warned of without a request. -/
theorem runOn_contentsOrWarning_of_unencodable (fault : Utf8.unencodable? path.toList = some f)
    (host : Host) (repo ref : Json) (session : Session) :
    ∃ lines, (host.contentsOrWarning repo path ref).runOn session =
      (.ok none, session.served session.hostReplies [] lines) := by
  have failed := runOn_fileContents_of_unencodable fault host repo ref session
  rw [runOn_contentsOrWarning_of_tolerated failed rfl, Session.note_eq_served]
  exact ⟨_, rfl⟩

-- ---------------------------------------------------------------------------
-- Entries
-- ---------------------------------------------------------------------------

/-- An entry of a listing: an object with a name, perhaps a number of changed
lines, perhaps a patch, and a status of any kind. With it comes the answer to
a request for its contents. -/
structure Entry where
  fields : List (String × Json)
  filename : String
  named : fields.lookup "filename" = some (.str filename)
  changes : Option Int
  counted : fields.lookup "changes" = changes.map .int
  patch : Option String
  patched : fields.lookup "patch" = patch.map .str
  reply : HostReply
  contents : Option String
  answered : Answers reply contents

namespace Entry

def json (entry : Entry) : Json := .obj entry.fields

/-- Entries that were added or removed say so, all others count as modified. -/
def status (entry : Entry) : FileStatus :=
  match entry.fields.lookup "status" with
  | some (.str word) =>
    if word = "added" then .added else if word = "removed" then .removed else .modified
  | _ => .modified

def isSource (entry : Entry) : Bool :=
  [".ts", ".tsx", ".js", ".jsx", ".vue", ".svelte", ".html", ".css", ".scss", ".less"].any
    fun ending => ending.toList.isSuffixOf entry.filename.toList

/-- Whether an entry is listed: a file to analyze with at most a thousand
changed lines. -/
def isListed (entry : Entry) : Bool :=
  decide (entry.changes.getD 0 ≤ 1000) && entry.isSource

/-- Whether the contents of an entry are asked for. -/
def isAsked (entry : Entry) : Bool :=
  entry.isListed && entry.status != .removed && (Utf8.unencodable? entry.filename.toList).isNone

def file (entry : Entry) : ChangedFile where
  filename := entry.filename
  status := entry.status
  patch := entry.patch
  contents := if entry.isAsked then entry.contents else none

end Entry

def contentsExchange (host : Host) (repo ref : Json) (entries : List Entry) :
    List (HostRequest × HostReply) :=
  (entries.filter Entry.isAsked).map fun entry =>
    (host.contentsRequest repo entry.filename ref, entry.reply)

/-- The files of the listed ones among some entries. -/
def filesOf (entries : List Entry) : List ChangedFile :=
  (entries.filter Entry.isListed).map Entry.file

-- ---------------------------------------------------------------------------
-- The entries of a page
-- ---------------------------------------------------------------------------

theorem statusOf_eq (entry : Entry) : statusOf entry.fields = entry.status := by
  unfold statusOf Entry.status
  split
  · next added => rw [added]; rfl
  · next removed => rw [removed]; rfl
  · next notAdded notRemoved =>
    split
    · next word worded =>
      rw [worded] at notAdded notRemoved
      rw [if_neg (by simpa using notAdded), if_neg (by simpa using notRemoved)]
    · rfl

theorem isAnalyzable_eq (entry : Entry) : isAnalyzable entry.filename = entry.isSource := rfl

theorem classify_eq (entry : Entry) :
    classify entry.json =
      if 1000 < entry.changes.getD 0 then
        .ok (.tooLarge (.str entry.filename) (.int (entry.changes.getD 0)))
      else if entry.isSource then
        .ok (.file entry.filename entry.status (.ofOption .str entry.patch))
      else .ok .notAnalyzable := by
  have changes : (entry.fields.lookup "changes").getD (.int 0) = .int (entry.changes.getD 0) := by
    rw [entry.counted]
    cases entry.changes <;> rfl
  have patch : (entry.fields.lookup "patch").getD .null = .ofOption .str entry.patch := by
    rw [entry.patched]
    cases entry.patch <;> rfl
  simp only [classify, Entry.json, Json.member, entry.named, changes, patch, exceeds, maxChanges,
    statusOf_eq, isAnalyzable_eq, bind, Except.bind]
  by_cases large : 1000 < entry.changes.getD 0
  · simp [large, pure, Except.pure]
  · simp only [large, decide_false, Bool.false_eq_true, ↓reduceIte]
    split <;> rfl

theorem changedFile_eq (filename : String) (status : FileStatus) (patch contents : Option String) :
    changedFile filename status (.ofOption .str patch) contents =
      .ok ⟨filename, status, patch, contents⟩ := by
  cases patch <;> rfl

theorem contentsExchange_singleton (host : Host) (repo ref : Json) (entry : Entry) :
    host.contentsExchange repo ref [entry] =
      if entry.isAsked then [(host.contentsRequest repo entry.filename ref, entry.reply)]
      else [] := by
  cases asked : entry.isAsked <;> simp [contentsExchange, asked]

theorem exchanges_contents (host : Host) (repo ref : Json) (entry : Entry)
    (listed : entry.isListed = true) (kept : entry.status ≠ .removed) :
    Exchanges (host.contentsExchange repo ref [entry])
      (host.contentsOrWarning repo entry.filename ref) (.ok entry.file.contents) := by
  rw [contentsExchange_singleton]
  cases encoded : Utf8.unencodable? entry.filename.toList with
  | none =>
    have asked : entry.isAsked = true := by simp [Entry.isAsked, listed, kept, encoded]
    simp only [asked, Entry.file, ↓reduceIte]
    exact fun session left replies =>
      runOn_contentsOrWarning_of_answers encoded replies entry.answered host repo ref
  | some fault =>
    have notAsked : entry.isAsked = false := by simp [Entry.isAsked, encoded]
    simp only [notAsked, Entry.file, ↓reduceIte, Bool.false_eq_true]
    intro session left replies
    rw [← show session.hostReplies = left from replies]
    exact runOn_contentsOrWarning_of_unencodable encoded host repo ref session

theorem exchanges_file (entry : Entry) :
    Exchanges [] (do
        let file ← Action.ofExcept (changedFile entry.filename entry.status
          (.ofOption .str entry.patch) entry.file.contents)
        return some file) (.ok (some entry.file)) :=
  .ofExcept_bind (changedFile_eq _ _ _ _) (.pure (some entry.file))

theorem exchanges_listEntry (host : Host) (repo ref : Json) (entry : Entry) :
    Exchanges (host.contentsExchange repo ref [entry]) (host.listEntry repo ref entry.json)
      (.ok (if entry.isListed then some entry.file else none)) := by
  have classified := classify_eq entry
  unfold listEntry
  by_cases large : 1000 < entry.changes.getD 0
  · have skipped : entry.isListed = false := by
      simp [Entry.isListed, Int.not_le.mpr large]
    have notAsked : entry.isAsked = false := by simp [Entry.isAsked, skipped]
    rw [if_pos large] at classified
    rw [contentsExchange_singleton, notAsked, skipped]
    exact .ofExcept_bind classified ((Exchanges.info _).bind (.pure none))
  · rw [if_neg large] at classified
    split at classified
    · next isSource =>
      have listed : entry.isListed = true := by
        simp [Entry.isListed, Int.not_lt.mp large, isSource]
      rw [listed, if_pos rfl]
      refine .ofExcept_bind classified ?_
      dsimp only
      split
      · next removed =>
        have notAsked : entry.isAsked = false := by simp [Entry.isAsked, removed]
        have without : entry.file.contents = none := by simp [Entry.file, notAsked]
        rw [contentsExchange_singleton, notAsked, ← without]
        exact (Exchanges.pure _).bind (exchanges_file entry)
      · next kept =>
        rw [← List.append_nil (host.contentsExchange repo ref [entry])]
        exact (exchanges_contents host repo ref entry listed kept).bind (exchanges_file entry)
    · next other =>
      have skipped : entry.isListed = false := by simp [Entry.isListed, other]
      have notAsked : entry.isAsked = false := by simp [Entry.isAsked, skipped]
      rw [contentsExchange_singleton, notAsked, skipped]
      exact .ofExcept_bind classified (.pure none)

theorem contentsExchange_cons (host : Host) (repo ref : Json) (entry : Entry) (rest : List Entry) :
    host.contentsExchange repo ref (entry :: rest) =
      host.contentsExchange repo ref [entry] ++ host.contentsExchange repo ref rest := by
  rw [contentsExchange, contentsExchange, contentsExchange, ← List.map_append, ← List.filter_append]
  rfl

theorem filesOf_cons (entry : Entry) (rest : List Entry) :
    filesOf (entry :: rest) =
      (if entry.isListed then some entry.file else none).toList ++ filesOf rest := by
  cases listed : entry.isListed <;> simp [filesOf, listed]

theorem exchanges_listEntries (host : Host) (repo ref : Json) (entries : List Entry) :
    Exchanges (host.contentsExchange repo ref entries)
      (host.listEntries repo ref (entries.map Entry.json)) (.ok (filesOf entries)) := by
  induction entries with
  | nil => exact .pure []
  | cons entry rest ih =>
    rw [contentsExchange_cons, filesOf_cons]
    exact (exchanges_listEntry host repo ref entry).bind (ih.map _)

end PatchReview.Host
