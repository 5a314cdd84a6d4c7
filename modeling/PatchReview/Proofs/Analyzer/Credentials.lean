import PatchReview.Proofs.Analyzer.BuiltIn
import PatchReview.Proofs.Analyzer.Direct
import PatchReview.Proofs.Pattern.Spans

/-!
# Credentials in the text

The names of keys and tokens that two of the rules for credentials look for end in a word
that the first one looks for. So where one of them matches, the first one does, and it
decides alone what is reported.
-/

namespace PatchReview

namespace Pattern

variable {p : Pattern} {before taken after : List Char}

def EndsIn (name target : Pattern) : Prop :=
  ∀ before taken after, name.Spans before taken after →
    ∃ passed word, taken = passed ++ word ∧ target.Spans (passed.reverse ++ before) word after

theorem EndsIn.findAll_ne_nil {name target : Pattern} (endsIn : name.EndsIn target)
    (found : (assignment name).findAll text ≠ []) : (assignment target).findAll text ≠ [] := by
  obtain ⟨passed, _, rest, rfl, spans⟩ := findAll_ne_nil_iff.mp found
  obtain ⟨named, value, rfl, spansName, spansValue⟩ := spans_sequence_cons.mp spans
  obtain ⟨skipped, word, rfl, spansWord⟩ := endsIn _ _ _ spansName
  refine findAll_ne_nil_iff.mpr ⟨passed ++ skipped, word ++ value, rest, by simp, ?_⟩
  refine spans_sequence_cons.mpr ⟨word, value, rfl, ?_, ?_⟩
  · simpa using spansWord
  · simpa using spansValue

def secretName : Pattern := anyOf ["password", "pwd", "secret", "key", "token"]

theorem endsIn_secretName {first : String} {sign : Pattern} {last : String}
    (listed : last ∈ ["password", "pwd", "secret", "key", "token"]) :
    (sequence [literal first, sign, literal last]).EndsIn secretName := by
  have words : secretName = alternatives ["password", "pwd", "secret", "key", "token"] := rfl
  intro before taken after spans
  simp only [spans_sequence_cons, spans_sequence_nil, spans_literal] at spans
  obtain ⟨opening, _, rfl, -, between, _, rfl, -, word, _, rfl, spells, rfl⟩ := spans
  refine ⟨opening ++ between, word, by simp, ?_⟩
  rw [words, spans_alternatives (List.cons_ne_nil _ _)]
  exact ⟨last, listed, spells⟩

end Pattern

namespace Rule

theorem evaluateFirst_eq_of_silent {rule : Rule σ} {rest : List (Rule σ)}
    (silent : rule.evaluate filename contents = .ok none →
      ∀ other ∈ rest, other.evaluate filename contents = .ok none) :
    evaluateFirst filename contents (rule :: rest) = rule.evaluate filename contents := by
  have nothing {rest : List (Rule σ)}
      (others : ∀ other ∈ rest, other.evaluate filename contents = .ok none) :
      evaluateFirst filename contents rest = .ok none := by
    induction rest with
    | nil => rfl
    | cons other rest ih =>
      rw [List.forall_mem_cons] at others
      rw [evaluateFirst, others.1]
      exact ih others.2
  rw [evaluateFirst]
  cases evaluates : rule.evaluate filename contents with
  | error fault => rfl
  | ok found =>
    cases found with
    | none => exact nothing (silent evaluates)
    | some finding => rfl

end Rule

-- ---------------------------------------------------------------------------
-- The rules for credentials
-- ---------------------------------------------------------------------------

theorem secretAssignment_eq :
    secretAssignment = credentialRule "secret-assignment" Pattern.secretName := rfl

def credentialsFinding : Finding Severity :=
  ⟨.high, none, "Potential hardcoded credentials detected",
    some "Move sensitive data to environment variables or secure configuration"⟩

theorem evaluate_credentialRule (name : String) (target : Pattern) (filename : String)
    (text : List Char) :
    (credentialRule name target).evaluate filename (some text) =
      .ok (if (assignment target).findAll text = [] then none else some credentialsFinding) := by
  have tells : (credentialRule name target).Tells "Potential hardcoded credentials detected" :=
    ⟨rfl, rfl⟩
  rw [tells.evaluate_eq]
  simp [credentialRule, PatternRule.found, Acceptance.holds, credentialsFinding]

theorem issue?_credentialRule {file : ChangedFile} (contents : file.contents = some text)
    (name : String) (target : Pattern) (category : Category) :
    (Rule.pattern (credentialRule name target)).issue? category file =
      .ok (if (assignment target).findAll text.toList = [] then none
        else some (credentialsFinding.toIssue category file.filename)) := by
  rw [Rule.issue?, contents, Option.map_some, Rule.evaluate, evaluate_credentialRule]
  split <;> rfl

/-- A rule for a name that ends in a word of the first rule finds nothing where
that one does not. -/
theorem evaluate_eq_none_of_endsIn {target : Pattern} (endsIn : target.EndsIn Pattern.secretName)
    (silent : secretAssignment.evaluate filename contents = .ok none) :
    (credentialRule name target).evaluate filename contents = .ok none := by
  cases contents with
  | none => cases silent
  | some text =>
    rw [secretAssignment_eq, evaluate_credentialRule] at silent
    rw [evaluate_credentialRule]
    have nothing : (assignment target).findAll text = [] := by
      by_contra found
      simp [endsIn.findAll_ne_nil found] at silent
    rw [if_pos nothing]

theorem issue?_secretAssignment_of_endsIn {file : ChangedFile} {target : Pattern}
    (endsIn : target.EndsIn Pattern.secretName)
    (reported :
      (Rule.pattern (credentialRule name target)).issue? category file = .ok (some issue)) :
    (Rule.pattern secretAssignment).issue? category file = .ok (some issue) := by
  cases contents : file.contents with
  | none =>
    rw [Rule.issue?, contents] at reported
    cases reported
  | some text =>
    rw [issue?_credentialRule contents] at reported
    have found : (assignment target).findAll text.toList ≠ [] := by
      intro nothing
      simp [nothing] at reported
    rw [if_neg found] at reported
    rw [secretAssignment_eq, issue?_credentialRule contents, if_neg (endsIn.findAll_ne_nil found),
      reported]

theorem evaluate_eq_none_of_secretAssignment
    (silent : secretAssignment.evaluate filename contents = .ok none) :
    apiKeyAssignment.evaluate filename contents = .ok none ∧
      accessTokenAssignment.evaluate filename contents = .ok none :=
  ⟨evaluate_eq_none_of_endsIn (Pattern.endsIn_secretName (by decide)) silent,
    evaluate_eq_none_of_endsIn (Pattern.endsIn_secretName (by decide)) silent⟩

theorem issue?_credentialRules (category : Category) (file : ChangedFile) :
    (Rule.firstMatch "hardcoded-credentials" credentialRules).issue? category file =
      (Rule.pattern secretAssignment).issue? category file := by
  have first : (Rule.firstMatch "hardcoded-credentials" credentialRules).evaluate file.filename
        (file.contents.map (·.toList)) =
      (Rule.pattern secretAssignment).evaluate file.filename (file.contents.map (·.toList)) := by
    rw [Rule.evaluate]
    refine Rule.evaluateFirst_eq_of_silent fun silent => ?_
    obtain ⟨api, access⟩ := evaluate_eq_none_of_secretAssignment silent
    simp only [List.forall_mem_cons, List.not_mem_nil, false_implies, implies_true, and_true]
    exact ⟨api, access⟩
  rw [Rule.issue?, Rule.issue?, first]

-- ---------------------------------------------------------------------------
-- The other rows
-- ---------------------------------------------------------------------------

def messageStart : PatternRule σ ⊕ HeadingRule σ → List Char
  | .inl rule =>
    match rule.message with
    | .text start :: _ => start.toList
    | _ => []
  | .inr rule => rule.message.toList

theorem messageStart_prefix {part : PatternRule σ ⊕ HeadingRule σ}
    (found : Rule.partFinding? filename text part = some finding) :
    messageStart part <+: finding.message.toList := by
  cases part with
  | inl rule =>
    simp only [Rule.partFinding?, Sum.elim_inl, PatternRule.finding?] at found
    split at found
    · cases found
      simp only [messageStart, String.toList_ofList]
      split
      · next start rest written =>
        rw [written, List.flatMap_cons]
        exact List.prefix_append _ _
      · exact List.nil_prefix
    · cases found
  | inr rule =>
    obtain ⟨skip, -, rfl⟩ := Option.map_eq_some_iff.mp found
    exact List.prefix_refl _

def credentialsRow : Category × Rule Severity :=
  (.security, .firstMatch "hardcoded-credentials" credentialRules)

theorem filter_isCredentialsRow :
    tableRows.filter (·.2.name == "hardcoded-credentials") = [credentialsRow] := rfl

theorem reported?_credentialsRow {file : ChangedFile} (contents : file.contents = some text) :
    reported? file credentialsRow =
      if (assignment Pattern.secretName).findAll text.toList = [] then none
      else some (credentialsFinding.toIssue .security file.filename) := by
  rw [reported?, credentialsRow, issue?_credentialRules, secretAssignment_eq,
    issue?_credentialRule contents]

theorem reported?_credentialsRow_of_text? {file : ChangedFile} (noText : file.text? = none) :
    reported? file credentialsRow = none := by
  cases contents : file.contents with
  | none =>
    rw [reported?, credentialsRow, Rule.issue?, contents]
    rfl
  | some text =>
    obtain rfl : text = "" := by
      rw [ChangedFile.text?, contents] at noText
      simpa using noText
    rw [reported?_credentialsRow contents]
    exact if_pos (by decide)

/-- Only the row for credentials says that some were found. -/
theorem message_ne_of_reported? {file : ChangedFile} {row : Category × Rule Severity}
    (contents : file.contents = some text) (inTables : row ∈ tableRows)
    (other : row.2.name ≠ "hardcoded-credentials") (found : reported? file row = some issue) :
    issue.message ≠ credentialsFinding.message := by
  have apart : ∀ row ∈ tableRows, row.2.name ≠ "hardcoded-credentials" → ∀ part ∈ row.2.parts,
      ¬ messageStart part <+: credentialsFinding.message.toList := by decide +kernel
  rw [reported?_eq_finding? contents inTables] at found
  obtain ⟨finding, first, rfl⟩ := Option.map_eq_some_iff.mp found
  obtain ⟨part, among, ofPart⟩ := List.exists_of_findSome?_eq_some first
  intro same
  refine apart row inTables other part among ?_
  rw [← same]
  exact messageStart_prefix ofPart

theorem filter_reported? {file : ChangedFile} {row : Category × Rule Severity}
    (contents : file.contents = some text) (inTables : row ∈ tableRows) :
    (reported? file row).filter (·.message == credentialsFinding.message) =
      if row.2.name == "hardcoded-credentials" then reported? file row else none := by
  by_cases named : row.2.name = "hardcoded-credentials"
  · have listed : row ∈ tableRows.filter (·.2.name == "hardcoded-credentials") :=
      List.mem_filter.mpr ⟨inTables, beq_iff_eq.mpr named⟩
    rw [filter_isCredentialsRow, List.mem_singleton] at listed
    rw [if_pos (beq_iff_eq.mpr named), listed, reported?_credentialsRow contents]
    split <;> simp [Finding.toIssue]
  · rw [if_neg (mt beq_iff_eq.mp named), Option.filter_eq_none_iff]
    intro issue found
    simpa using message_ne_of_reported? contents inTables named found

theorem filter_tableIssues (file : ChangedFile) :
    (tableIssues file).filter (·.message == credentialsFinding.message) =
      (reported? file credentialsRow).toList := by
  cases hasText : file.text? with
  | none =>
    rw [tableIssues, hasText, reported?_credentialsRow_of_text? hasText]
    rfl
  | some text =>
    have contents := (ChangedFile.text?_eq_some.mp hasText).1
    calc (tableIssues file).filter (·.message == credentialsFinding.message)
      _ = tableRows.filterMap fun row =>
          (reported? file row).filter (·.message == credentialsFinding.message) := by
        rw [tableIssues, hasText, Option.isSome_some, if_pos rfl, List.filter_filterMap]
      _ = tableRows.filterMap fun row =>
          if row.2.name == "hardcoded-credentials" then reported? file row else none :=
        List.filterMap_congr fun row inTables => filter_reported? contents inTables
      _ = (tableRows.filter (·.2.name == "hardcoded-credentials")).filterMap (reported? file) := by
        rw [List.filterMap_filter]
      _ = (reported? file credentialsRow).toList := by
        rw [filter_isCredentialsRow, List.filterMap_cons, List.filterMap_nil]
        cases reported? file credentialsRow <;> rfl

/-- The first of the rules for credentials decides alone: the group reports what it does, on
any file, and it reports where one of the others does, with the same issue. So a file has one
issue about credentials at most. -/
theorem issue?_hardcodedCredentials (file : ChangedFile) (category : Category) :
    (Rule.firstMatch "hardcoded-credentials" credentialRules).issue? category file =
      (Rule.pattern secretAssignment).issue? category file ∧
    (∀ rule ∈ [apiKeyAssignment, accessTokenAssignment], ∀ issue,
      (Rule.pattern rule).issue? category file = .ok (some issue) →
        (Rule.pattern secretAssignment).issue? category file = .ok (some issue)) ∧
    ∃ issues, allIssues file = .ok issues ∧
      issues.filter (·.message == "Potential hardcoded credentials detected") =
        (reported? file (.security, .pattern secretAssignment)).toList ∧
      (issues.filter (·.message == "Potential hardcoded credentials detected")).length ≤ 1 := by
  have only : (tableIssues file).filter (·.message == "Potential hardcoded credentials detected") =
      (reported? file (.security, .pattern secretAssignment)).toList := by
    have same : reported? file credentialsRow =
        reported? file (.security, .pattern secretAssignment) := by
      rw [reported?, reported?, credentialsRow, issue?_credentialRules]
    rw [← same]
    exact filter_tableIssues file
  refine ⟨issue?_credentialRules category file, ?_, tableIssues file, allIssues_eq file, only, ?_⟩
  · simp only [List.forall_mem_cons, List.not_mem_nil, false_implies, implies_true, and_true]
    constructor
    · intro issue reported
      exact issue?_secretAssignment_of_endsIn (Pattern.endsIn_secretName (by decide)) reported
    · intro issue reported
      exact issue?_secretAssignment_of_endsIn (Pattern.endsIn_secretName (by decide)) reported
  · rw [only]
    exact Option.length_toList_le

/-- A key and a token in one file, which the first rule finds, too. -/
theorem issue?_hardcodedCredentials_keyed :
    let file : ChangedFile :=
      ⟨"a.ts", .added, none, some "API_KEY: 'k'\naccess-token = \"t\""⟩
    let issue := credentialsFinding.toIssue .security file.filename
    apiKeyAssignment ∈ [apiKeyAssignment, accessTokenAssignment] ∧
      accessTokenAssignment ∈ [apiKeyAssignment, accessTokenAssignment] ∧
      (Rule.pattern apiKeyAssignment).issue? .security file = .ok (some issue) ∧
      (Rule.pattern accessTokenAssignment).issue? .security file = .ok (some issue) ∧
      (Rule.pattern secretAssignment).issue? .security file = .ok (some issue) ∧
      (Rule.firstMatch "hardcoded-credentials" credentialRules).issue? .security file =
        .ok (some issue) := by
  intro file issue
  obtain ⟨group, fires, -⟩ := issue?_hardcodedCredentials file .security
  have apiListed : apiKeyAssignment ∈ [apiKeyAssignment, accessTokenAssignment] := .head _
  have accessListed : accessTokenAssignment ∈ [apiKeyAssignment, accessTokenAssignment] :=
    .tail _ (.head _)
  have api : (Rule.pattern apiKeyAssignment).issue? .security file = .ok (some issue) := by
    decide +kernel
  have access : (Rule.pattern accessTokenAssignment).issue? .security file = .ok (some issue) := by
    decide +kernel
  have secret := fires apiKeyAssignment apiListed issue api
  exact ⟨apiListed, accessListed, api, access, secret, group.trans secret⟩

end PatchReview
