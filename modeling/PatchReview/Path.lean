/-!
# Paths

A path is written as steps between slashes. A path without the steps that do
not count, which are empty ones and single dots, is plain; two dots are kept,
since they lead elsewhere if the step before them is missing.
-/

namespace PatchReview

structure Path where
  /-- A slash for a path from the root. Two slashes at the start are kept as
  they are, more count as one. -/
  root : String
  steps : List String
  deriving DecidableEq, Repr

def slashParts : List Char → List (List Char)
  | [] => [[]]
  | c :: rest =>
    if c = '/' then [] :: slashParts rest
    else
      match slashParts rest with
      | [] => [[c]]
      | part :: parts => (c :: part) :: parts

namespace Path

def rootOf (path : List Char) : String :=
  match path with
  | '/' :: '/' :: '/' :: _ => "/"
  | '/' :: '/' :: _ => "//"
  | '/' :: _ => "/"
  | _ => ""

def ofString (path : String) : Path :=
  ⟨rootOf path.toList, ((slashParts path.toList).map String.ofList).filter fun step =>
    step != "" && step != "."⟩

/-- A single dot stands for the working directory. -/
def text (path : Path) : String :=
  if path.root = "" && path.steps.isEmpty then "."
  else path.root ++ "/".intercalate path.steps

def parent (path : Path) : Path := { path with steps := path.steps.dropLast }

def alongTo (path : Path) : List Path :=
  (List.range (path.steps.length + 1)).map fun n => { path with steps := path.steps.take n }

end Path

end PatchReview
