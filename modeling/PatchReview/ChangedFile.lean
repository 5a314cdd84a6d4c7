import PatchReview.Schema.Check

/-!
# Changed files

A file that a pull request touches. Its patch is carried along and never
analyzed; its contents are absent when it was removed or could not be read.
-/

namespace PatchReview

inductive FileStatus where
  | added
  | modified
  | removed
  deriving DecidableEq, Repr

namespace FileStatus

def all : List FileStatus := [added, modified, removed]

def name : FileStatus → String
  | added => "added"
  | modified => "modified"
  | removed => "removed"

def names : List (String × FileStatus) := all.map fun s => (s.name, s)

def check : Schema.Check FileStatus := Schema.Check.choice names

end FileStatus

structure ChangedFile where
  filename : String
  status : FileStatus
  patch : Option String
  contents : Option String
  deriving DecidableEq, Repr

namespace ChangedFile

def text? (file : ChangedFile) : Option String := file.contents.filter (!·.isEmpty)

def ofFields (fields : List (String × Json)) : Schema.Checked ChangedFile :=
  ChangedFile.mk <$> Schema.required "filename" Schema.Check.text fields
    <*> Schema.required "status" FileStatus.check fields
    <*> Schema.optional "patch" Schema.Check.text fields
    <*> Schema.optional "contents" Schema.Check.text fields

def checkFrom (origin : Schema.Check.Origin) : Schema.Check ChangedFile :=
  Schema.Check.model origin "ChangedFile" ofFields

def toJson (file : ChangedFile) : Json :=
  .obj [("filename", .str file.filename), ("status", .str file.status.name),
    ("patch", .ofOption .str file.patch), ("contents", .ofOption .str file.contents)]

end ChangedFile

end PatchReview
