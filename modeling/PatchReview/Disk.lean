import PatchReview.Path
import PatchReview.Text.Quoted

/-!
# Files

A disk holds the files and directories that a program can reach from its
working directory. Paths are walked step by step: a dot stays, two dots go
back, and every step but the last has to be a directory. Places on the disk
are named by the steps that lead there without detours; the first step of a
place outside the working directory is a slash or two dots.
-/

namespace PatchReview

inductive FileFault where
  | notFound
  | exists
  | notDirectory
  | isDirectory
  | nameTooLong
  deriving DecidableEq, Repr

def FileFault.message (path : String) : FileFault → String
  | .notFound => s!"[Errno 2] No such file or directory: {Text.quote path}"
  | .exists => s!"[Errno 17] File exists: {Text.quote path}"
  | .notDirectory => s!"[Errno 20] Not a directory: {Text.quote path}"
  | .isDirectory => s!"[Errno 21] Is a directory: {Text.quote path}"
  | .nameTooLong => s!"[Errno 36] File name too long: {Text.quote path}"

structure Disk where
  files : List (List String × List UInt8)
  directories : List (List String)
  deriving Repr

/-- The directory one level up. There is none above the root, and those above
the working directory are counted. -/
def stepBack (here : List String) : List String :=
  match here.getLast? with
  | none | some ".." => here ++ [".."]
  | some "/" => here
  | some _ => here.dropLast

def follow (here : List String) (steps : List String) : List String :=
  steps.foldl (fun here step => if step = ".." then stepBack here else here ++ [step]) here

/-- A path as it is walked: where it starts, the steps before the last one, the
last one, and whether a slash follows it. -/
structure Walk where
  start : List String
  before : List String
  last : Option String
  endsInSlash : Bool
  deriving DecidableEq, Repr

namespace Walk

def ofString (path : String) : Walk :=
  let steps := ((slashParts path.toList).map String.ofList).filter (· != "")
  ⟨if path.toList.head? == some '/' then ["/"] else [], steps.dropLast, steps.getLast?,
    path.toList.getLast? == some '/'⟩

end Walk

namespace Disk

inductive Entry where
  | file (octets : List UInt8)
  | directory
  | absent
  deriving DecidableEq, Repr

def nameLimit : Nat := 255

/-- Paths of this number of octets are too long. -/
def pathLimit : Nat := 4096

def hasDirectory (disk : Disk) (place : List String) : Bool :=
  place.all (· == "..") || place == ["/"] || disk.directories.contains place

def entry (disk : Disk) (here : List String) (name : String) : Except FileFault Entry :=
  let there := here ++ [name]
  if nameLimit < name.utf8ByteSize then .error .nameTooLong
  else if disk.hasDirectory there then .ok .directory
  else .ok <| match disk.files.lookup there with
    | some octets => .file octets
    | none => .absent

def enter (disk : Disk) (here : List String) : List String → Except FileFault (List String)
  | [] => .ok here
  | "." :: rest => disk.enter here rest
  | ".." :: rest => disk.enter (stepBack here) rest
  | name :: rest => do
    match ← disk.entry here name with
    | .directory => disk.enter (here ++ [name]) rest
    | .file _ => .error .notDirectory
    | .absent => .error .notFound

/-- What is at a path, with the place of what is no directory or not there. -/
def locate (disk : Disk) (walk : Walk) : Except FileFault (Entry × List String) := do
  let here ← disk.enter walk.start walk.before
  match walk.last with
  | none => return (.directory, here)
  | some name =>
    if name = "." || name = ".." then return (.directory, here)
    else return (← disk.entry here name, here ++ [name])

def read (disk : Disk) (path : String) : Except FileFault (List UInt8) := do
  let walk := Walk.ofString path
  if pathLimit ≤ path.utf8ByteSize then throw .nameTooLong
  match (← disk.locate walk).1 with
  | .file octets => if walk.endsInSlash then throw .notDirectory else return octets
  | .directory => throw .isDirectory
  | .absent => throw .notFound

/-- Writes a file into a directory that is there. A path that ends in a slash
can only be that of a directory. -/
def write (disk : Disk) (path : String) (octets : List UInt8) : Except FileFault Disk := do
  let walk := Walk.ofString path
  if pathLimit ≤ path.utf8ByteSize then throw .nameTooLong
  let here ← disk.enter walk.start walk.before
  if walk.endsInSlash then throw .isDirectory
  let (entry, there) ← disk.locate { walk with start := here, before := [] }
  match entry with
  | .directory => throw .isDirectory
  | _ => return { disk with files := (there, octets) :: disk.files.filter (·.1 != there) }

/-! ## Making directories -/

def addDirectory (disk : Disk) (place : List String) : Disk :=
  if disk.hasDirectory place then disk else { disk with directories := place :: disk.directories }

inductive MakeFault where
  | file (path : Path) (fault : FileFault)
  | tooManyLevels
  deriving DecidableEq, Repr

/-- The most levels of missing directories that are made at once. -/
def levelLimit : Nat := 980

/-- Makes what is missing of the directories along the last steps of a path.
From the first missing one on, faults are those of the directory at hand;
before it they are those of the whole path, since that is tried first. The
directories made before a fault stay. -/
def makeFrom (disk : Disk) (path : Path) (here : List String) (making : Bool) (count : Nat) :
    List String → Disk × Option MakeFault
  | [] => (disk, none)
  | ".." :: rest => disk.makeFrom path (stepBack here) making (count + 1) rest
  | name :: rest =>
    let there := here ++ [name]
    let failed (fault : FileFault) : Disk × Option MakeFault :=
      (disk, some (.file (if making then { path with steps := path.steps.take (count + 1) } else path)
        fault))
    match disk.entry here name with
    | .error fault => failed fault
    | .ok .directory => disk.makeFrom path there making (count + 1) rest
    | .ok (.file _) => failed (if making || rest.isEmpty then .exists else .notDirectory)
    | .ok .absent =>
      if !making && levelLimit ≤ rest.length then (disk, some .tooManyLevels)
      else (disk.addDirectory there).makeFrom path there true (count + 1) rest

def makeDirectories (disk : Disk) (path : Path) : Disk × Option MakeFault :=
  if pathLimit ≤ path.text.utf8ByteSize then (disk, some (.file path .nameTooLong))
  else disk.makeFrom path (if path.root = "" then [] else ["/"]) false 0 path.steps

/-! ## Setting up -/

def placeOf (path : Path) : List String :=
  follow (if path.root = "" then [] else ["/"]) path.steps

def placeDirectory (disk : Disk) (path : String) : Disk :=
  (Path.ofString path).alongTo.foldl (fun disk path => disk.addDirectory (placeOf path)) disk

def place (disk : Disk) (path : String) (octets : List UInt8) : Disk :=
  let path := Path.ofString path
  let there := placeOf path
  let disk := disk.placeDirectory path.parent.text
  { disk with files := (there, octets) :: disk.files.filter (·.1 != there) }

end Disk

def unifyLineEnds : List Char → List Char
  | '\r' :: '\n' :: rest => '\n' :: unifyLineEnds rest
  | '\r' :: rest => '\n' :: unifyLineEnds rest
  | c :: rest => c :: unifyLineEnds rest
  | [] => []

end PatchReview
