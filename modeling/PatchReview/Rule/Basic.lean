import PatchReview.Pattern.Scan
import PatchReview.Template.Basic

/-!
# Rules

A rule looks at the text of one file and reports at most one finding, however
often it matches. Rules are written over any type of severity labels: the
tables use `Severity`, rules read from data use text that is checked when a
finding becomes an issue.
-/

namespace PatchReview

structure Finding (σ : Type) where
  severity : σ
  line : Option Nat
  message : String
  suggestion : Option String
  deriving DecidableEq, Repr

inductive RuleFault where
  | noContents
  | template (fault : TemplateFault)
  deriving DecidableEq, Repr

/-- A condition on the texts of all matches. -/
inductive Acceptance where
  | always
  /-- Some match contains the text exactly. -/
  | someContains (text : String)
  /-- Some match begins with one of the texts, which are in lower case. -/
  | someBegins (beginnings : List String)
  deriving DecidableEq, Repr

namespace Acceptance

def contains (part : List Char) (text : List Char) : Bool :=
  match text with
  | [] => part.isEmpty
  | c :: rest => part.isPrefixOf (c :: rest) || contains part rest

def holds : Acceptance → List (List Char) → Bool
  | always, _ => true
  | someContains text, found => found.any (contains text.toList)
  | someBegins beginnings, found =>
    found.any fun text => beginnings.any (·.toList.isPrefixOf (text.map Text.lowerAscii))

end Acceptance

structure PatternRule (σ : Type) where
  name : String
  pattern : Pattern
  severity : σ
  message : Template
  suggestion : Option String := none
  minCount : Int := 1
  /-- The endings of file names the rule is for; none means all files. -/
  extensions : List String := []
  /-- A match of this pattern anywhere suppresses the rule. -/
  unlessFound : Option Pattern := none
  accept : Acceptance := .always
  deriving Repr

def hasExtension (extensions : List String) (filename : String) : Bool :=
  extensions.any (·.toList.isSuffixOf filename.toList)

def joinTexts (texts : List (List Char)) : String :=
  ", ".intercalate (texts.map String.ofList)

namespace PatternRule

def appliesTo (rule : PatternRule σ) (filename : String) : Bool :=
  rule.extensions.isEmpty || hasExtension rule.extensions filename

def fires (rule : PatternRule σ) (found : List (List Char)) (text : List Char) : Bool :=
  rule.minCount ≤ found.length && !(rule.unlessFound.any (·.occursIn text)) && rule.accept.holds found

def matchedTexts (found : List (List Char)) : MatchedTexts :=
  ⟨found.length, joinTexts found, joinTexts (found.take 3)⟩

def found (rule : PatternRule σ) (text : List Char) : List (List Char) :=
  (rule.pattern.findAll text).map (·.text)

def evaluate (rule : PatternRule σ) (filename : String) (contents : Option (List Char)) :
    Except RuleFault (Option (Finding σ)) :=
  if !rule.appliesTo filename then .ok none
  else
    match contents with
    | none => .error .noContents
    | some text =>
      let found := rule.found text
      if !rule.fires found text then .ok none
      else
        match rule.message.fill (matchedTexts found) with
        | .error fault => .error (.template fault)
        | .ok message => .ok (some ⟨rule.severity, none, message, rule.suggestion⟩)

end PatternRule

/-- Reports the first heading that goes more than one level deeper than the
heading before it. -/
structure HeadingRule (σ : Type) where
  name : String
  severity : σ
  message : String
  suggestion : Option String := none
  deriving Repr

namespace HeadingRule

def tag : Pattern :=
  .sequence [.literal "<h", .one (.oneOf ['1', '2', '3', '4', '5', '6']),
    .many (.noneOf ['>']), .literal ">"]

/-- The level of a heading tag, the digit after its two first characters. -/
def level (tag : Match) : Nat := (tag.text.getD 2 '0').toNat - '0'.toNat

/-- The first tag that skips a level, after a heading of the given level. -/
def firstSkip (previous : Option Nat) : List Match → Option Match
  | [] => none
  | tag :: rest =>
    if previous.any (· + 1 < level tag) then some tag else firstSkip (some (level tag)) rest

def evaluate (rule : HeadingRule σ) (contents : Option (List Char)) :
    Except RuleFault (Option (Finding σ)) :=
  match contents with
  | none => .error .noContents
  | some text =>
    .ok ((firstSkip none (tag.findAll text)).map fun skip =>
      ⟨rule.severity, some skip.start.line, rule.message, rule.suggestion⟩)

end HeadingRule

inductive Rule (σ : Type) where
  | pattern (rule : PatternRule σ)
  | heading (rule : HeadingRule σ)
  /-- The finding of the first rule that has one. -/
  | firstMatch (name : String) (rules : List (Rule σ))
  deriving Inhabited

namespace Rule

def name : Rule σ → String
  | pattern rule => rule.name
  | heading rule => rule.name
  | firstMatch name _ => name

mutual
def evaluate (filename : String) (contents : Option (List Char)) :
    Rule σ → Except RuleFault (Option (Finding σ))
  | pattern rule => rule.evaluate filename contents
  | heading rule => rule.evaluate contents
  | firstMatch _ rules => evaluateFirst filename contents rules
def evaluateFirst (filename : String) (contents : Option (List Char)) :
    List (Rule σ) → Except RuleFault (Option (Finding σ))
  | [] => .ok none
  | rule :: rest =>
    match rule.evaluate filename contents with
    | .ok none => evaluateFirst filename contents rest
    | decided => decided
end

end Rule

end PatchReview
