import Mathlib.Data.List.Dedup
import PatchReview.Rule.Tables

/-!
# Rules that never fail

A message of plain fields can be filled with any matches, so a rule with such
a message comes to a finding or to none on every text: to the first finding of
its parts, which are rules without alternatives (`evaluate_eq_finding?`). What
a rule finds bears a severity and a suggestion of its own
(`label_of_evaluate`). The rows of the tables are rules of this kind, and each
has one severity and one suggestion.
-/

namespace PatchReview

-- ---------------------------------------------------------------------------
-- Messages
-- ---------------------------------------------------------------------------

def TemplateSource.isValue : TemplateSource → Bool
  | .fault _ => false
  | _ => true

def TemplatePiece.isPlain : TemplatePiece OuterLayout → Bool
  | .text _ => true
  | .field ⟨source, [], none, .plain []⟩ => source.isValue
  | _ => false

/-- What a source stands for. -/
def TemplateSource.shown (texts : MatchedTexts) : TemplateSource → List Char
  | .count => Nat.toDigits 10 texts.count
  | .all => texts.all.toList
  | .sample => texts.sample.toList
  | .fault _ => []

def TemplatePiece.shown (texts : MatchedTexts) : TemplatePiece OuterLayout → List Char
  | .text given => given.toList
  | .field given => given.source.shown texts
  | .fault _ => []

namespace Template

theorem fillPiece_eq_shown {piece : TemplatePiece OuterLayout} (plain : piece.isPlain = true)
    (texts : MatchedTexts) :
    fillPiece (outerLayoutText texts) texts piece = .ok (piece.shown texts) := by
  unfold TemplatePiece.isPlain at plain
  split at plain
  · rfl
  · next source =>
    cases source with
    | fault => cases plain
    | count | all | sample => rfl
  · cases plain

theorem fillPieces_eq_shown {pieces : Template} (plain : pieces.all (·.isPlain) = true)
    (texts : MatchedTexts) :
    fillPieces (outerLayoutText texts) texts pieces = .ok (pieces.flatMap (·.shown texts)) := by
  induction pieces with
  | nil => rfl
  | cons piece rest ih =>
    rw [List.all_cons, Bool.and_eq_true] at plain
    rw [fillPieces, fillPiece_eq_shown plain.1, ih plain.2]
    rfl

theorem fill_eq_shown {template : Template} (plain : template.all (·.isPlain) = true)
    (texts : MatchedTexts) :
    template.fill texts = .ok (String.ofList (template.flatMap (·.shown texts))) := by
  rw [fill, fillPieces_eq_shown plain]
  rfl

end Template

-- ---------------------------------------------------------------------------
-- Rules
-- ---------------------------------------------------------------------------

def PatternRule.finding? (rule : PatternRule σ) (filename : String) (text : List Char) :
    Option (Finding σ) :=
  if rule.appliesTo filename && rule.fires (rule.found text) text then
    some ⟨rule.severity, none,
      String.ofList (rule.message.flatMap (·.shown (matchedTexts (rule.found text)))),
      rule.suggestion⟩
  else none

theorem PatternRule.evaluate_eq_finding? {rule : PatternRule σ}
    (plain : rule.message.all (·.isPlain) = true) (filename : String) (text : List Char) :
    rule.evaluate filename (some text) = .ok (rule.finding? filename text) := by
  unfold evaluate finding?
  cases rule.appliesTo filename with
  | false => rfl
  | true =>
    cases fires : rule.fires (rule.found text) text with
    | false => simp [fires]
    | true => simp [fires, Template.fill_eq_shown plain]

def HeadingRule.finding? (rule : HeadingRule σ) (text : List Char) : Option (Finding σ) :=
  (firstSkip none (tag.findAll text)).map fun skip =>
    ⟨rule.severity, some skip.start.line, rule.message, rule.suggestion⟩

theorem PatternRule.label_of_evaluate {rule : PatternRule σ}
    (h : rule.evaluate filename contents = .ok (some finding)) :
    (finding.severity, finding.suggestion) = (rule.severity, rule.suggestion) := by
  unfold evaluate at h
  split at h
  · cases h
  · split at h
    · cases h
    · dsimp only at h
      split at h
      · cases h
      · split at h
        · cases h
        · cases h
          rfl

theorem HeadingRule.label_of_evaluate {rule : HeadingRule σ}
    (h : rule.evaluate contents = .ok (some finding)) :
    (finding.severity, finding.suggestion) = (rule.severity, rule.suggestion) := by
  unfold evaluate at h
  split at h
  · cases h
  · obtain ⟨skip, -, rfl⟩ := Option.map_eq_some_iff.mp (Except.ok.inj h)
    rfl

namespace Rule

mutual
def isPlain : Rule σ → Bool
  | pattern rule => rule.message.all (·.isPlain)
  | heading _ => true
  | firstMatch _ rules => arePlain rules
def arePlain : List (Rule σ) → Bool
  | [] => true
  | rule :: rest => rule.isPlain && arePlain rest
end

mutual
def labels : Rule σ → List (σ × Option String)
  | pattern rule => [(rule.severity, rule.suggestion)]
  | heading rule => [(rule.severity, rule.suggestion)]
  | firstMatch _ rules => labelsOf rules
def labelsOf : List (Rule σ) → List (σ × Option String)
  | [] => []
  | rule :: rest => rule.labels ++ labelsOf rest
end

mutual
def parts : Rule σ → List (PatternRule σ ⊕ HeadingRule σ)
  | pattern rule => [.inl rule]
  | heading rule => [.inr rule]
  | firstMatch _ rules => partsOf rules
def partsOf : List (Rule σ) → List (PatternRule σ ⊕ HeadingRule σ)
  | [] => []
  | rule :: rest => rule.parts ++ partsOf rest
end

def partFinding? (filename : String) (text : List Char) :
    PatternRule σ ⊕ HeadingRule σ → Option (Finding σ) :=
  Sum.elim (·.finding? filename text) (·.finding? text)

mutual
/-- A rule with plain messages fails on no text. -/
theorem evaluate_eq_finding? (rule : Rule σ) (plain : rule.isPlain = true) (filename : String)
    (text : List Char) :
    rule.evaluate filename (some text) = .ok (rule.parts.findSome? (partFinding? filename text)) := by
  cases rule with
  | pattern rule =>
    rw [evaluate, PatternRule.evaluate_eq_finding? plain, parts, List.findSome?_singleton]
    rfl
  | heading rule =>
    rw [evaluate, parts, List.findSome?_singleton]
    rfl
  | firstMatch name rules => exact evaluateFirst_eq_finding? rules plain filename text
theorem evaluateFirst_eq_finding? (rules : List (Rule σ)) (plain : arePlain rules = true)
    (filename : String) (text : List Char) :
    evaluateFirst filename (some text) rules =
      .ok ((partsOf rules).findSome? (partFinding? filename text)) := by
  cases rules with
  | nil => rfl
  | cons rule rest =>
    rw [arePlain, Bool.and_eq_true] at plain
    rw [evaluateFirst, evaluate_eq_finding? rule plain.1, partsOf, List.findSome?_append]
    cases rule.parts.findSome? (partFinding? filename text) with
    | none => exact evaluateFirst_eq_finding? rest plain.2 filename text
    | some finding => rfl
end

mutual
theorem label_of_evaluate (rule : Rule σ)
    (h : rule.evaluate filename contents = .ok (some finding)) :
    (finding.severity, finding.suggestion) ∈ rule.labels := by
  cases rule with
  | pattern rule => exact List.mem_singleton.mpr (PatternRule.label_of_evaluate h)
  | heading rule => exact List.mem_singleton.mpr (HeadingRule.label_of_evaluate h)
  | firstMatch name rules => exact label_of_evaluateFirst rules h
theorem label_of_evaluateFirst (rules : List (Rule σ))
    (h : evaluateFirst filename contents rules = .ok (some finding)) :
    (finding.severity, finding.suggestion) ∈ labelsOf rules := by
  cases rules with
  | nil => cases h
  | cons rule rest =>
    rw [labelsOf, List.mem_append]
    rw [evaluateFirst] at h
    split at h
    · exact .inr (label_of_evaluateFirst rest h)
    · exact .inl (label_of_evaluate rule h)
end

end Rule

-- ---------------------------------------------------------------------------
-- The tables
-- ---------------------------------------------------------------------------

/-- The rows of all tables with their categories, in the order in which a file
is analyzed. -/
def tableRows : List (Category × Rule Severity) :=
  Category.all.flatMap fun category => (rulesFor category).map (category, ·)

theorem length_tableRows : tableRows.length = 13 := rfl

theorem isPlain_of_mem_tableRows (h : row ∈ tableRows) : row.2.isPlain = true := by
  have all : tableRows.all (·.2.isPlain) = true := by decide
  exact List.all_eq_true.mp all row h

/-- A row has one severity and one suggestion, alternatives included. -/
theorem dedup_labels_of_mem_tableRows (h : row ∈ tableRows) (bears : label ∈ row.2.labels) :
    row.2.labels.dedup = [label] := by
  have all : ∀ row ∈ tableRows, row.2.labels.dedup.length = 1 := by decide
  obtain ⟨only, single⟩ := List.length_eq_one_iff.mp (all row h)
  have among : label ∈ row.2.labels.dedup := List.mem_dedup.mpr bears
  rw [single, List.mem_singleton] at among
  rw [single, among]

end PatchReview
