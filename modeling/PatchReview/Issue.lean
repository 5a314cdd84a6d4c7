import PatchReview.Schema.Check
import PatchReview.Text.Case

/-!
# Issues

An issue is one finding about a file: what it concerns, how severe it is and
where it is, if a line can be named.
-/

namespace PatchReview

inductive Category where
  | accessibility
  | performance
  | security
  deriving DecidableEq, Repr, Hashable

namespace Category

def all : List Category := [accessibility, performance, security]

def name : Category → String
  | accessibility => "accessibility"
  | performance => "performance"
  | security => "security"

def names : List (String × Category) := all.map fun c => (c.name, c)

def check : Schema.Check Category := Schema.Check.choice names

end Category

inductive Severity where
  | low
  | medium
  | high
  deriving DecidableEq, Repr, Hashable

namespace Severity

def all : List Severity := [low, medium, high]

def name : Severity → String
  | low => "low"
  | medium => "medium"
  | high => "high"

def label (severity : Severity) : String := Text.upper severity.name

def names : List (String × Severity) := all.map fun s => (s.name, s)

def check : Schema.Check Severity := Schema.Check.choice names

end Severity

structure Issue where
  category : Category
  severity : Severity
  file : String
  line : Option Int
  message : String
  suggestion : Option String
  deriving DecidableEq, Repr, Hashable

namespace Issue

def ofFields (fields : List (String × Json)) : Schema.Checked Issue :=
  Issue.mk <$> Schema.required "type" Category.check fields
    <*> Schema.required "severity" Severity.check fields
    <*> Schema.required "file" Schema.Check.text fields
    <*> Schema.optional "line" Schema.Check.integer fields
    <*> Schema.required "message" Schema.Check.text fields
    <*> Schema.optional "suggestion" Schema.Check.text fields

def check : Schema.Check Issue := Schema.Check.model .document "Issue" ofFields

def toJson (issue : Issue) : Json :=
  .obj [("type", .str issue.category.name), ("severity", .str issue.severity.name),
    ("file", .str issue.file), ("line", .ofOption .int issue.line),
    ("message", .str issue.message), ("suggestion", .ofOption .str issue.suggestion)]

end Issue

end PatchReview
