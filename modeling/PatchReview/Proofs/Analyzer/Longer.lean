import PatchReview.Proofs.Analyzer.BuiltIn
import PatchReview.Proofs.Pattern.Longer

/-!
# Files that go on

Lines that are added at the end of a file hide no finding, but for two rows: one is
suppressed by a match anywhere in the file, and the other looks beyond the end of a
tag. All others report on the longer file if they did on the file as it was. The
counts that they show do not go down, and the heading that skips a level stays the
same (`issue?_of_longer`).
-/

namespace PatchReview

-- ---------------------------------------------------------------------------
-- Pattern rules
-- ---------------------------------------------------------------------------

theorem Acceptance.holds_of_prefix {accept : Acceptance} (longer : found <+: others)
    (h : accept.holds found = true) : accept.holds others = true := by
  cases accept with
  | always => rfl
  | someContains | someBegins =>
    simp only [holds, List.any_eq_true] at h ⊢
    obtain ⟨text, among, fits⟩ := h
    exact ⟨text, longer.subset among, fits⟩

namespace PatternRule

def grows (rule : PatternRule σ) : Bool :=
  rule.unlessFound.isNone &&
    (rule.pattern.settles ||
      rule.pattern.isPositive && rule.minCount == 1 && rule.accept == .always)

variable {rule : PatternRule σ} {more text : List Char}

theorem found_prefix (settles : rule.pattern.settles = true) :
    rule.found text <+: rule.found (text ++ '\n' :: more) := by
  have matched : (rule.pattern.findAll text).map (.extend ('\n' :: more)) <+:
      rule.pattern.findAll (text ++ '\n' :: more) :=
    Pattern.findAll_prefix (Pattern.isSettled_of_settles settles) text
  have texts := matched.map (·.text)
  rwa [List.map_map] at texts

theorem fires_of_grows (h : rule.grows = true) (fires : rule.fires (rule.found text) text = true) :
    rule.fires (rule.found (text ++ '\n' :: more)) (text ++ '\n' :: more) = true := by
  simp only [grows, Bool.and_eq_true, Bool.or_eq_true, Option.isNone_iff_eq_none,
    beq_iff_eq] at h
  obtain ⟨free, settles | ⟨⟨positive, single⟩, accepts⟩⟩ := h
  · simp only [PatternRule.fires, free, Option.any_none, Bool.not_false, Bool.and_true,
      Bool.and_eq_true, decide_eq_true_eq] at fires ⊢
    have longer : rule.found text <+: rule.found (text ++ '\n' :: more) := found_prefix settles
    have := longer.length_le
    exact ⟨by omega, Acceptance.holds_of_prefix longer fires.2⟩
  · simp only [PatternRule.fires, free, accepts, single, Acceptance.holds, found, List.length_map,
      Option.any_none, Bool.not_false, Bool.and_true, decide_eq_true_eq] at fires ⊢
    have some : rule.pattern.findAll text ≠ [] := List.ne_nil_of_length_pos (by omega)
    have apart : ∀ c ∈ ('\n' :: more).head?, Text.isWord c = false := by simp; decide
    have := List.length_pos_of_ne_nil (Pattern.findAll_ne_nil positive apart some)
    omega

theorem isSome_finding?_of_grows (h : rule.grows = true)
    (finds : (rule.finding? filename text).isSome) :
    (rule.finding? filename (text ++ '\n' :: more)).isSome := by
  simp only [finding?, Option.isSome_ite, Bool.and_eq_true] at finds ⊢
  exact ⟨finds.1, fires_of_grows h finds.2⟩

end PatternRule

-- ---------------------------------------------------------------------------
-- Headings
-- ---------------------------------------------------------------------------

namespace HeadingRule

theorem firstSkip_extend (previous : Option Nat) (tags : List Match) (more : List Char) :
    firstSkip previous (tags.map (.extend more)) = (firstSkip previous tags).map (.extend more) := by
  induction tags generalizing previous with
  | nil => rfl
  | cons tag rest ih =>
    have same : level (tag.extend more) = level tag := rfl
    simp only [List.map_cons, firstSkip, same, ih]
    split <;> rfl

theorem firstSkip_append (found : firstSkip previous tags = some skip) (others : List Match) :
    firstSkip previous (tags ++ others) = some skip := by
  induction tags generalizing previous with
  | nil => cases found
  | cons tag rest ih =>
    simp only [List.cons_append, firstSkip] at found ⊢
    split
    · simp_all
    · exact ih (by simpa [*] using found)

theorem finding?_of_longer {rule : HeadingRule σ} (h : rule.finding? text = some finding)
    (more : List Char) : rule.finding? (text ++ more) = some finding := by
  obtain ⟨skip, first, rfl⟩ := Option.map_eq_some_iff.mp h
  have closes : tag.closesWith ['>'] = true := by decide
  have matched : (tag.findAll text).map (.extend more) <+: tag.findAll (text ++ more) :=
    Pattern.findAll_prefix (Pattern.isClosed_of_closesWith closes).isSettled text
  obtain ⟨others, whole⟩ := matched
  have later : firstSkip none (tag.findAll (text ++ more)) = some (skip.extend more) := by
    rw [← whole]
    exact firstSkip_append (by rw [firstSkip_extend, first]; rfl) others
  rw [finding?, later]
  rfl

end HeadingRule

-- ---------------------------------------------------------------------------
-- The tables
-- ---------------------------------------------------------------------------

/-- The rows that may report less when lines are added. -/
def receding : List String := ["img-missing-lazy-loading", "target-blank-without-noopener"]

def countingRules : List (PatternRule Severity) :=
  [imgMissingAlt, inputMissingLabel, repeatedDomQuery]

def PatternRule.tally (rule : PatternRule σ) (count : Nat) : String :=
  String.ofList (rule.message.flatMap (·.shown ⟨count, "", ""⟩))

theorem grows_of_mem_tableRows (h : row ∈ tableRows) (steady : row.2.name ∉ receding)
    (hp : part ∈ row.2.parts) : Sum.elim PatternRule.grows (fun _ => true) part = true := by
  have all : ∀ row ∈ tableRows, row.2.name ∉ receding →
      ∀ part ∈ row.2.parts, Sum.elim PatternRule.grows (fun _ => true) part = true := by decide
  exact all row h steady part hp

theorem isSome_partFinding?_of_longer {part : PatternRule Severity ⊕ HeadingRule Severity}
    (grows : Sum.elim PatternRule.grows (fun _ => true) part = true)
    (h : (Rule.partFinding? filename text part).isSome) (more : List Char) :
    (Rule.partFinding? filename (text ++ '\n' :: more) part).isSome := by
  cases part with
  | inl rule => exact PatternRule.isSome_finding?_of_grows grows h
  | inr rule =>
    obtain ⟨finding, finds⟩ := Option.isSome_iff_exists.mp h
    exact Option.isSome_iff_exists.mpr ⟨finding, rule.finding?_of_longer finds _⟩

theorem message_of_countingRules (counts : rule ∈ countingRules)
    (h : rule.finding? filename text = some finding) :
    finding.message = rule.tally (rule.found text).length := by
  unfold PatternRule.finding? at h
  split at h
  · cases h
    simp only [countingRules, List.mem_cons, List.not_mem_nil, or_false] at counts
    obtain rfl | rfl | rfl := counts <;> rfl
  · cases h

theorem settles_of_countingRules (counts : rule ∈ countingRules) :
    rule.pattern.settles = true := by
  have all : ∀ rule ∈ countingRules, rule.pattern.settles = true := by decide
  exact all rule counts

/-- A row that reports on a file reports on the file with lines added to it, unless it is
one of two. The count that it shows is no less, and a heading is the same. -/
theorem issue?_of_longer {file : ChangedFile} (contents : file.contents = some text)
    (inTables : row ∈ tableRows) (steady : row.2.name ∉ receding)
    (h : row.2.issue? row.1 file = .ok (some issue)) (more : String) :
    ∃ later,
      row.2.issue? row.1 { file with contents := some (text ++ "\n" ++ more) } =
        .ok (some later) ∧
      (∀ rule ∈ countingRules, row.2 = .pattern rule →
        ∃ before after, before ≤ after ∧
          issue.message = rule.tally before ∧ later.message = rule.tally after) ∧
      (∀ rule, row.2 = .heading rule → later = issue) := by
  have added : (text ++ "\n" ++ more).toList = text.toList ++ '\n' :: more.toList := by simp
  rw [issue?_eq_finding? contents inTables] at h
  rw [issue?_eq_finding? rfl inTables, added]
  obtain ⟨finding, found, rfl⟩ := Option.map_eq_some_iff.mp (Except.ok.inj h)
  have finds : (row.2.parts.findSome?
      (Rule.partFinding? file.filename (text.toList ++ '\n' :: more.toList))).isSome := by
    obtain ⟨part, among, fires⟩ := List.exists_of_findSome?_eq_some found
    rw [List.findSome?_isSome_iff]
    refine ⟨part, among, isSome_partFinding?_of_longer ?_ (by simp [fires]) _⟩
    exact grows_of_mem_tableRows inTables steady among
  obtain ⟨later, found'⟩ := Option.isSome_iff_exists.mp finds
  refine ⟨later.toIssue row.1 file.filename, by rw [found']; rfl, ?_, ?_⟩
  · intro rule counts same
    simp only [same, Rule.parts, List.findSome?_singleton, Rule.partFinding?, Sum.elim_inl]
      at found found'
    have longer : rule.found text.toList <+: rule.found (text.toList ++ '\n' :: more.toList) :=
      PatternRule.found_prefix (settles_of_countingRules counts)
    exact ⟨_, _, longer.length_le, message_of_countingRules counts found,
      message_of_countingRules counts found'⟩
  · intro rule same
    simp only [same, Rule.parts, List.findSome?_singleton, Rule.partFinding?, Sum.elim_inr]
      at found found'
    rw [rule.finding?_of_longer found] at found'
    rw [Option.some.inj found']

/-- A tag that is not closed becomes one when the file goes on. -/
theorem issue?_of_longer_openTag :
    let page : ChangedFile := ⟨"page.html", .modified, none, some "<img src=a>\n<IMG"⟩
    let issue : Issue := ⟨.accessibility, .medium, "page.html", none,
      "Found 1 img tag(s) without alt attribute",
      "Add descriptive alt text to all images for screen readers"⟩
    page.contents = some "<img src=a>\n<IMG" ∧
      (.accessibility, .pattern imgMissingAlt) ∈ tableRows ∧ imgMissingAlt.name ∉ receding ∧
      (Rule.pattern imgMissingAlt).issue? .accessibility page = .ok (some issue) ∧
      ∃ later,
        (Rule.pattern imgMissingAlt).issue? .accessibility
            { page with contents := some ("<img src=a>\n<IMG" ++ "\n" ++ "src=b>") } =
          .ok (some later) ∧
        ∃ before after, before ≤ after ∧
          issue.message = imgMissingAlt.tally before ∧ later.message = imgMissingAlt.tally after := by
  intro page issue
  have inTables : (Category.accessibility, Rule.pattern imgMissingAlt) ∈ tableRows :=
    mem_tableRows List.mem_cons_self
  have steady : imgMissingAlt.name ∉ receding := by decide
  have reports : (Rule.pattern imgMissingAlt).issue? .accessibility page = .ok (some issue) := by
    decide +kernel
  have contents : page.contents = some "<img src=a>\n<IMG" := rfl
  obtain ⟨later, found, counts, -⟩ := issue?_of_longer contents inTables steady reports "src=b>"
  exact ⟨contents, inTables, steady, reports, later, found,
    counts imgMissingAlt List.mem_cons_self rfl⟩

end PatchReview
