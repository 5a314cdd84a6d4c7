import PatchReview.CommandLine.Options
import PatchReview.Host.Listing
import PatchReview.Json.Reader
import PatchReview.Settings

/-!
# What a run reviews

The files to review come from the disk, from a pull request that is named, or
from the one that an event payload names. A run without any of them ends
before anything is reviewed.
-/

namespace PatchReview.CommandLine

inductive Ending where
  | exit (code : Nat)
  | usage (error : UsageError)
  deriving DecidableEq, Repr

structure PullRequest where
  host : Host
  repo : Json
  number : Json
  deriving Repr

inductive Input where
  | files (files : List ChangedFile) (pullRequest : Option PullRequest)
  | none (ending : Ending)

/-- Whether a path may hold a character: of the halves of surrogate pairs only
those that stand for the upper half of the octets. -/
def isPathChar (c : Char) : Bool :=
  (Text.surrogate? c).all fun unit => 0xDC80 ≤ unit && unit < 0xDD00

def pathFault? (path : List Char) : Option Utf8.Unencodable :=
  let good := path.takeWhile isPathChar
  (Utf8.unencodable? (path.drop good.length)).map fun fault =>
    { fault with offset := good.length + fault.offset }

/-- A path can be encoded and holds no null character. -/
def checkPath (path : String) : Action Session Unit :=
  match pathFault? path.toList with
  | some fault => throw (.unencodable fault)
  | none => if path.toList.contains '\x00' then throw (.value "embedded null byte") else return ()

/-- The text of a file with line feeds as line ends. Faults name the path as
given. -/
def readText (path : String) : Action Session String := do
  checkPath path
  let octets ← Action.ofExcept
    (((← get).disk.read path).mapError (Failure.file path))
  match Utf8.decode octets with
  | .ok text => return String.ofList (unifyLineEnds text)
  | .error fault => throw (.undecodable fault)

def localFile (path : String) : Action Session ChangedFile := do
  let contents ← readText (Path.ofString path).text
  return ⟨path, .modified, none, some contents⟩

def localFiles : List String → Action Session (List ChangedFile)
  | [] => return []
  | path :: rest => do
    let file ← localFile path
    let others ← localFiles rest
    return file :: others

/-- Where an event payload points: a repository, a number and a head. -/
structure Target where
  repo : Json
  number : Json
  head : Json
  deriving Repr

def eventTarget (event : Json) : Except Failure (Option Target) :=
  match event with
  | .obj fields =>
    let pullRequest := (fields.lookup "pull_request").getD .null
    if !pullRequest.isPresent then .ok none
    else do
      let repo ← Json.member "full_name" (← Json.member "repository" event)
      let number ← Json.member "number" pullRequest
      let head ← Json.member "sha" (← Json.member "head" pullRequest)
      return some ⟨repo, number, head⟩
  | _ => .error .noOperation

def readEvent (path : String) : Action Session (Option Target) := do
  let text := (← readText path).toList
  let event ← Action.ofExcept
    ((Json.read text).mapError (Failure.ofReadFault .unreadableDocument text))
  Action.ofExcept (eventTarget event)

/-- The files of a pull request. A head that is not known is asked for. -/
def pullRequestFiles (settings : Settings) (target : Target) : Action Session Input :=
  match settings.hostToken with
  | none => do
    Session.logError "GITHUB_TOKEN is required to read pull requests"
    return .none (.exit 1)
  | some token => do
    let host := Host.make token Host.defaultApiUrl
    let head ←
      if target.head.isPresent then pure target.head else host.headSha target.repo target.number
    let files ← host.changedFiles target.repo target.number head
    return .files files (some ⟨host, target.repo, target.number⟩)

def loadInput (options : Options) (settings : Settings) : Action Session Input :=
  if !options.files.isEmpty then do
    let files ← localFiles options.files
    return .files files none
  else
    match nonEmpty options.repo with
    | some repo =>
      pullRequestFiles settings ⟨.str repo, .ofOption .int options.pr, .null⟩
    | none =>
      match (nonEmpty options.eventPath).or settings.eventPath with
      | none => return .none (.usage .noSource)
      | some path => do
        match ← readEvent path with
        | some target => pullRequestFiles settings target
        | none =>
          Session.warn "Event payload has no pull_request - nothing to review"
          return .none (.exit 0)

end PatchReview.CommandLine
