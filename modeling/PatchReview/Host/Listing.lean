import PatchReview.ChangedFile
import PatchReview.Host.Contents
import PatchReview.Rule.Basic

/-!
# The changed files of a pull request

A listing comes page by page; a page that is not full is the last one. Files
that are too large or of another kind are skipped, and the others are given
their contents at the head of the pull request, except for removed ones.
-/

namespace PatchReview.Host

def analyzableExtensions : List String :=
  [".ts", ".tsx", ".js", ".jsx", ".vue", ".svelte", ".html", ".css", ".scss", ".less"]

def isAnalyzable (filename : String) : Bool := hasExtension analyzableExtensions filename

def maxChanges : Int := 1000

def pageSize : Nat := 100

def exceeds (limit : Int) : Json → Except Failure Bool
  | .int n => .ok (limit < n)
  | .bool _ => .ok false
  | .num x => .ok ((Binary64.ofNat limit.toNat).lt x)
  | _ => .error .wrongKind

/-- A number of changed lines without its fraction. An infinite one has no
digits to show. -/
def changesText : Json → Except Failure String
  | .num x => (x.truncate?.map toString).elim (.error .infinite) .ok
  | value => .ok value.display

def statusOf (entry : List (String × Json)) : FileStatus :=
  match entry.lookup "status" with
  | some (.str "added") => .added
  | some (.str "removed") => .removed
  | _ => .modified

/-- An entry of a listing with a name to analyze; none if it is skipped. -/
inductive Listed where
  | tooLarge (filename changes : Json)
  | notAnalyzable
  | file (filename : String) (status : FileStatus) (patch : Json)

def classify (entry : Json) : Except Failure Listed := do
  let filename ← Json.member "filename" entry
  let fields := match entry with
    | .obj fields => fields
    | _ => []
  let changes := (fields.lookup "changes").getD (.int 0)
  if ← exceeds maxChanges changes then return .tooLarge filename changes
  match filename with
  | .str name =>
    if isAnalyzable name then
      return .file name (statusOf fields) ((fields.lookup "patch").getD .null)
    else return .notAnalyzable
  | _ => throw .noOperation

/-- A listed file with its contents; the patch is checked last. -/
def changedFile (filename : String) (status : FileStatus) (patch : Json)
    (contents : Option String) : Except Failure ChangedFile :=
  match (Schema.Check.text.nullable patch).under (.field "patch") with
  | .valid patch => .ok ⟨filename, status, patch, contents⟩
  | .invalid violations => .error (.invalidModel "ChangedFile" violations)

/-- The file of an entry, or none if the entry is skipped. -/
def listEntry (host : Host) (repo ref : Json) (entry : Json) :
    Action Session (Option ChangedFile) := do
  match ← Action.ofExcept (classify entry) with
  | .tooLarge filename changes =>
    Session.infoOf ((changesText changes).map fun count =>
      s!"Skipping {filename.display}: {count} changes")
    return none
  | .notAnalyzable => return none
  | .file filename status patch =>
    let contents ←
      if status = .removed then pure none else host.contentsOrWarning repo filename ref
    let file ← Action.ofExcept (changedFile filename status patch contents)
    return some file

def listEntries (host : Host) (repo ref : Json) : List Json → Action Session (List ChangedFile)
  | [] => return []
  | entry :: rest => do
    let first ← host.listEntry repo ref entry
    let others ← host.listEntries repo ref rest
    return first.toList ++ others

def pageEntries (page : Json) : Except Failure (List Json) :=
  if !page.isPresent then .ok []
  else
    match page with
    | .arr entries => .ok entries
    | _ => .error .wrongKind

def filesPath (repo number : Json) : String :=
  s!"/repos/{repo.display}/pulls/{number.display}/files"

/-- The files of a page and, while pages are full, of those after it. Every
page takes a reply, so at most as many are read as replies are left. -/
def listPages (host : Host) (repo number ref : Json) (page : Nat) :
    Nat → Action Session (List ChangedFile)
  | 0 => return []
  | left + 1 => do
    let query := some [("per_page", Json.int pageSize), ("page", Json.int page)]
    let answer ← host.request .get (filesPath repo number) query none
    let entries ← Action.ofExcept (pageEntries answer)
    let files ← host.listEntries repo ref entries
    if entries.length < pageSize then return files
    else
      let others ← host.listPages repo number ref (page + 1) left
      return files ++ others

def changedFiles (host : Host) (repo number ref : Json) : Action Session (List ChangedFile) := do
  let session ← get
  host.listPages repo number ref 1 (session.hostReplies.length + 1)

end PatchReview.Host
