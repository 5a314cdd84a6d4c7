import PatchReview.Analyzer
import PatchReview.Proofs.Rule

/-!
# Rules for every file

Most rows report on any file in which their pattern matches, or in which the texts of the
matches are accepted. What such a row reports can be read off its matches.
-/

namespace PatchReview.PatternRule

/-- A rule for all files, which no match of another pattern suppresses and for which one
match is enough. -/
def isDirect (rule : PatternRule σ) : Bool :=
  rule.extensions.isEmpty && rule.unlessFound.isNone && rule.minCount == 1

variable {rule : PatternRule Severity} {file : ChangedFile} {text : String}

theorem finding?_of_isDirect {rule : PatternRule σ} (direct : rule.isDirect = true)
    (filename : String) (text : List Char) :
    rule.finding? filename text =
      if rule.found text ≠ [] ∧ rule.accept.holds (rule.found text) = true then
        some ⟨rule.severity, none,
          String.ofList (rule.message.flatMap (·.shown (matchedTexts (rule.found text)))),
          rule.suggestion⟩
      else none := by
  simp only [isDirect, Bool.and_eq_true, beq_iff_eq, Option.isNone_iff_eq_none] at direct
  obtain ⟨⟨anyFile, free⟩, single⟩ := direct
  cases found : rule.found text with
  | nil => simp [finding?, fires, found, single]
  | cons first others =>
    have enough : (1 : Int) ≤ others.length + 1 := by omega
    simp [finding?, fires, appliesTo, found, anyFile, free, single, enough]

/-- A rule with a plain message that accepts all matches in every file, if they are enough. -/
structure Lists (rule : PatternRule σ) : Prop where
  anyFile : rule.extensions = []
  free : rule.unlessFound = none
  accepts : rule.accept = .always
  plain : rule.message.all (·.isPlain) = true

theorem Lists.issue?_eq (lists : rule.Lists) (contents : file.contents = some text)
    (category : Category) :
    (Rule.pattern rule).issue? category file =
      .ok (if rule.minCount ≤ (rule.found text.toList).length then
        some ⟨category, rule.severity, file.filename, none,
          String.ofList (rule.message.flatMap (·.shown (matchedTexts (rule.found text.toList)))),
          rule.suggestion⟩
      else none) := by
  rw [Rule.issue?, contents, Option.map_some, Rule.evaluate, evaluate_eq_finding? lists.plain]
  simp only [finding?, appliesTo, fires, lists.anyFile, lists.free, lists.accepts, List.isEmpty_nil,
    Bool.true_or, Option.any_none, Bool.not_false, Acceptance.holds, Bool.and_true, Bool.true_and,
    decide_eq_true_eq]
  split <;> rfl

theorem Lists.issue?_eq_of_single (lists : rule.Lists) (single : rule.minCount = 1)
    (contents : file.contents = some text) (category : Category) :
    (Rule.pattern rule).issue? category file =
      .ok (if rule.found text.toList = [] then none
        else some ⟨category, rule.severity, file.filename, none,
          String.ofList (rule.message.flatMap (·.shown (matchedTexts (rule.found text.toList)))),
          rule.suggestion⟩) := by
  have enough : rule.minCount ≤ (rule.found text.toList).length ↔ rule.found text.toList ≠ [] := by
    rw [single, ← List.length_pos_iff]
    omega
  rw [lists.issue?_eq contents]
  simp only [enough, ne_eq, ite_not]

/-- A rule that tells in how many places its pattern matches. -/
structure Counts (rule : PatternRule Severity) (before after : String) : Prop where
  direct : rule.isDirect = true
  accepts : rule.accept = .always
  message : rule.message = [.text before, .count, .text after]

theorem Counts.issue?_eq (counts : rule.Counts before after) (contents : file.contents = some text)
    (counted : (rule.found text.toList).length = count) (category : Category) :
    (Rule.pattern rule).issue? category file =
      .ok (if count = 0 then none
        else some ⟨category, rule.severity, file.filename, none,
          before ++ toString count ++ after, rule.suggestion⟩) := by
  have plain : rule.message.all (·.isPlain) = true := by
    rw [counts.message]
    rfl
  have shown :
      String.ofList (rule.message.flatMap (·.shown (matchedTexts (rule.found text.toList)))) =
        before ++ toString count ++ after := by
    rw [← String.toList_inj, counts.message, ← counted]
    simp [TemplatePiece.shown, TemplatePiece.count, TemplatePiece.ofSource, TemplateSource.shown,
      matchedTexts]
  rw [Rule.issue?, contents, Option.map_some, Rule.evaluate, evaluate_eq_finding? plain,
    finding?_of_isDirect counts.direct, shown]
  simp only [counts.accepts, Acceptance.holds, ne_eq, ← List.length_eq_zero_iff, counted, and_true,
    ite_not]
  split <;> rfl

/-- A rule that says the same of all texts whose matches it accepts. -/
structure Tells (rule : PatternRule Severity) (said : String) : Prop where
  direct : rule.isDirect = true
  message : rule.message = [.text said]

theorem Tells.evaluate_eq (tells : rule.Tells said) (filename : String) (text : List Char) :
    rule.evaluate filename (some text) =
      .ok (if rule.found text ≠ [] ∧ rule.accept.holds (rule.found text) = true then
        some ⟨rule.severity, none, said, rule.suggestion⟩
      else none) := by
  have plain : rule.message.all (·.isPlain) = true := by
    rw [tells.message]
    rfl
  have shown : String.ofList (rule.message.flatMap (·.shown (matchedTexts (rule.found text)))) =
      said := by
    rw [← String.toList_inj, tells.message]
    simp [TemplatePiece.shown]
  rw [evaluate_eq_finding? plain, finding?_of_isDirect tells.direct, shown]

theorem Tells.issue?_eq (tells : rule.Tells said) (contents : file.contents = some text)
    (category : Category) :
    (Rule.pattern rule).issue? category file =
      .ok (if rule.found text.toList ≠ [] ∧ rule.accept.holds (rule.found text.toList) = true then
        some ⟨category, rule.severity, file.filename, none, said, rule.suggestion⟩
      else none) := by
  rw [Rule.issue?, contents, Option.map_some, Rule.evaluate, tells.evaluate_eq]
  split <;> rfl

end PatchReview.PatternRule
