import PatchReview.Proofs.Analyzer.BuiltIn

/-!
# Analyzers that fail

An analyzer that fails on a file contributes nothing for that file, whatever its rules had
reported by then, and a line of the log tells of it. The others and the other files have what
they would have without it (`runOn_analyzeFiles_failing`).
-/

namespace PatchReview

open PatchReview.Action (runOn_bind_ok)

def Logs (x : Action Session α) (a : α) (lines : List LogLine) : Prop :=
  ∀ session, x.runOn session = (.ok a, { session with log := session.log ++ lines })

namespace Logs

theorem pure (a : α) : Logs (Pure.pure a) a [] := by
  intro session
  simp

theorem note (level : LogLevel) (text : String) :
    Logs (modify (Session.note level text)) () [⟨level, text⟩] := fun _ => rfl

theorem bind {x : Action Session α} {f : α → Action Session β} (hx : Logs x a lines)
    (hf : Logs (f a) b others) : Logs (x >>= f) b (lines ++ others) := by
  intro session
  rw [runOn_bind_ok (hx session), hf]
  simp

theorem bind_pure {x : Action Session α} (hx : Logs x a lines) (f : α → β) :
    Logs (x >>= fun a => Pure.pure (f a)) (f a) lines := by
  have both : Logs (x >>= fun a => Pure.pure (f a)) (f a) (lines ++ []) := hx.bind (.pure _)
  rwa [List.append_nil] at both

end Logs

-- ---------------------------------------------------------------------------
-- Pools
-- ---------------------------------------------------------------------------

namespace Pool

def finished (pool : Pool) (inputs : List α) : List α :=
  if pool.isSequential inputs.length then inputs
  else (pool.order inputs.length).filterMap (inputs[·]?)

theorem finished_of_sequential {pool : Pool} (h : pool.isSequential inputs.length = true) :
    pool.finished inputs = inputs := if_pos h

theorem finished_perm (pool : Pool) (inputs : List α) : (pool.finished inputs).Perm inputs := by
  unfold finished
  split
  · exact .refl _
  · have every := (pool.order_perm inputs.length).filterMap (inputs[·]?)
    rwa [range_filterMap_getElem?] at every

variable {job : α → Action Session β} {g : α → β} {lines : α → List LogLine}

theorem logs_each (h : ∀ a, Logs (job a) (g a) (lines a)) (inputs : List α) :
    Logs (each job inputs) (inputs.map g) (inputs.flatMap lines) := by
  induction inputs with
  | nil => exact .pure _
  | cons a rest ih => exact (h a).bind (ih.bind_pure _)

theorem logs_finish (h : ∀ a, Logs (job a) (g a) (lines a)) (inputs : List α) (order : List Nat) :
    Logs (finish job inputs order) (order.filterMap fun i => (inputs[i]?.map g).map (i, ·))
      ((order.filterMap (inputs[·]?)).flatMap lines) := by
  induction order with
  | nil => exact .pure _
  | cons i order ih =>
    cases found : inputs[i]? with
    | none => simpa [finish, found] using ih
    | some a =>
      simp only [finish, found, List.filterMap_cons, Option.map_some, List.flatMap_cons]
      exact (h a).bind (ih.bind_pure _)

theorem logs_map (pool : Pool) (h : ∀ a, Logs (job a) (g a) (lines a)) (inputs : List α) :
    Logs (pool.map job inputs) (inputs.map g) ((pool.finished inputs).flatMap lines) := by
  unfold map finished
  split
  · exact logs_each h inputs
  · have results := (logs_finish h inputs (pool.order inputs.length)).bind_pure fun finished =>
      (List.range inputs.length).filterMap fun position => finished.lookup position
    rwa [filterMap_lookup] at results

end Pool

-- ---------------------------------------------------------------------------
-- Analyzers of rules
-- ---------------------------------------------------------------------------

def Analyzer.ofRules (name : String) (category : Category) (rules : List (Rule Severity)) :
    Analyzer where
  name := name
  analyze file :=
    match file.text? with
    | none => .ok []
    | some _ => (issuesOf category file rules).mapError Failure.ofRuleFault

def Analyzer.failsOn (analyzer : Analyzer) (file : ChangedFile) : Bool :=
  !(analyzer.analyze file).isOk

def Rule.failsOn (category : Category) (file : ChangedFile) (rule : Rule Severity) : Bool :=
  !(rule.issue? category file).isOk

variable {category : Category} {file : ChangedFile} {rules : List (Rule Severity)}

theorem exists_issuesOf_error (fails : rules.any (·.failsOn category file) = true) :
    ∃ fault, issuesOf category file rules = .error fault := by
  induction rules with
  | nil => simp at fails
  | cons rule rest ih =>
    rw [issuesOf]
    cases first : rule.issue? category file with
    | error fault => exact ⟨fault, rfl⟩
    | ok found =>
      -- What the rule found is dropped when a later one fails.
      have later : rest.any (·.failsOn category file) = true := by
        simpa [Rule.failsOn, first, Except.isOk, Except.toBool] using fails
      obtain ⟨fault, others⟩ := ih later
      exact ⟨fault, by rw [others]; rfl⟩

theorem issuesOf_eq_of_not_any (fine : rules.any (·.failsOn category file) = false) :
    issuesOf category file rules =
      .ok (rules.filterMap fun rule => reported? file (category, rule)) := by
  induction rules with
  | nil => rfl
  | cons rule rest ih =>
    rw [List.any_cons, Bool.or_eq_false_iff] at fine
    rw [issuesOf, ih fine.2]
    cases first : rule.issue? category file with
    | error fault => simp [Rule.failsOn, first, Except.isOk, Except.toBool] at fine
    | ok found => cases found <;> simp [reported?, first] <;> rfl

theorem analyze_ofRules (name : String) (category : Category) (rules : List (Rule Severity))
    (file : ChangedFile) :
    let fails := file.text?.isSome && rules.any (·.failsOn category file)
    let analyzer := Analyzer.ofRules name category rules
    analyzer.failsOn file = fails ∧
      analyzer.contribution file =
        if file.text?.isSome && !fails then
          rules.filterMap fun rule => reported? file (category, rule)
        else [] := by
  intro fails analyzer
  simp only [fails, analyzer, Analyzer.failsOn, Analyzer.contribution, Analyzer.ofRules]
  rcases Option.eq_none_or_eq_some file.text? with found | ⟨text, found⟩
  · simp [found, Except.isOk, Except.toBool]
  · rcases Bool.eq_false_or_eq_true (rules.any (·.failsOn category file)) with any | fine
    · obtain ⟨fault, stops⟩ := exists_issuesOf_error any
      simp [found, stops, any, Except.mapError, Except.isOk, Except.toBool]
    · simp [found, issuesOf_eq_of_not_any fine, fine, Except.mapError, Except.isOk, Except.toBool]

-- ---------------------------------------------------------------------------
-- One file
-- ---------------------------------------------------------------------------

def Analyzer.faultLine (analyzer : Analyzer) (file : ChangedFile) : LogLine :=
  ⟨.error, s!"{analyzer.name} analyzer failed on {file.filename} - skipping"⟩

def faultLines (analyzers : List Analyzer) (file : ChangedFile) : List LogLine :=
  (analyzers.filter (·.failsOn file)).map (·.faultLine file)

def working (analyzers : List Analyzer) (file : ChangedFile) : List Analyzer :=
  analyzers.filter (!·.failsOn file)

theorem Analyzer.contribution_of_failsOn {analyzer : Analyzer}
    (fails : analyzer.failsOn file = true) : analyzer.contribution file = [] := by
  unfold contribution
  split
  · next analyzes => simp [failsOn, analyzes, Except.isOk, Except.toBool] at fails
  · rfl

theorem logs_analyzeFile (analyzers : List Analyzer) (file : ChangedFile) :
    Logs (analyzeFile analyzers file) (analyzers.flatMap (·.contribution file))
      (faultLines analyzers file) := by
  induction analyzers with
  | nil => exact .pure _
  | cons analyzer rest ih =>
    unfold analyzeFile faultLines
    rw [List.flatMap_cons, List.filter_cons, Analyzer.contribution, Analyzer.failsOn]
    cases analyzer.analyze file with
    | ok issues => exact ih.bind_pure _
    | error failure => exact (Logs.note _ _).bind ih

theorem flatMap_working (analyzers : List Analyzer) (file : ChangedFile) :
    (working analyzers file).flatMap (·.contribution file) =
      analyzers.flatMap (·.contribution file) := by
  induction analyzers with
  | nil => rfl
  | cons analyzer rest ih =>
    rw [working] at ih ⊢
    rw [List.filter_cons, List.flatMap_cons]
    cases fails : analyzer.failsOn file with
    | true => simpa [Analyzer.contribution_of_failsOn fails] using ih
    | false => simpa using ih

theorem faultLines_working (analyzers : List Analyzer) (file : ChangedFile) :
    faultLines (working analyzers file) file = [] := by
  simp [faultLines, working, List.filter_filter]

-- ---------------------------------------------------------------------------
-- All files
-- ---------------------------------------------------------------------------

/-- The issues of all files that have contents, when each file has analyzers of its own. -/
def analyzeFilesBy (pool : Pool) (analyzersFor : ChangedFile → List Analyzer)
    (files : List ChangedFile) : Action Session (List Issue) := do
  let analyzable := files.filter (·.text?.isSome)
  let perFile ← pool.map (fun file => analyzeFile (analyzersFor file) file) analyzable
  let issues := perFile.flatten
  Session.info
    s!"Analyzed {analyzable.length} file(s), found {issues.length} potential issue(s)"
  return issues

theorem analyzeFiles_eq (pool : Pool) (analyzers : List Analyzer) :
    analyzeFiles pool analyzers = analyzeFilesBy pool fun _ => analyzers := rfl

theorem logs_analyzeFilesBy (pool : Pool) (analyzersFor : ChangedFile → List Analyzer)
    (files : List ChangedFile) :
    let analyzable := files.filter (·.text?.isSome)
    let issues := analyzable.flatMap fun file => (analyzersFor file).flatMap (·.contribution file)
    let counts : LogLine := ⟨.info,
      s!"Analyzed {analyzable.length} file(s), found {issues.length} potential issue(s)"⟩
    Logs (analyzeFilesBy pool analyzersFor files) issues
      ((pool.finished analyzable).flatMap (fun file => faultLines (analyzersFor file) file) ++
        [counts]) := by
  intro analyzable issues counts
  have perFile := pool.logs_map (fun file => logs_analyzeFile (analyzersFor file) file) analyzable
  simp only [issues, counts, List.flatMap_def]
  exact perFile.bind ((Logs.note _ _).bind_pure _)

/-- An analysis comes to an end whatever fails, and so it does with the pairs of a file and an
analyzer that fail taken out, with the same issues and without a line on any of them. Workers
who take turns log those pairs in the order of the files and analyzers. An analyzer of rules
fails if one of them does, and then none of the others counts. -/
theorem runOn_analyzeFiles_failing (pool : Pool) (analyzers : List Analyzer)
    (files : List ChangedFile) (session : Session) :
    let analyzable := files.filter (·.text?.isSome)
    let issues := analyzable.flatMap fun file => analyzers.flatMap (·.contribution file)
    let counts : LogLine := ⟨.info,
      s!"Analyzed {analyzable.length} file(s), found {issues.length} potential issue(s)"⟩
    (∃ finished, finished.Perm analyzable ∧
      (pool.workers ≤ 1 ∨ analyzable.length ≤ 1 → finished = analyzable) ∧
      (analyzeFiles pool analyzers files).runOn session =
        (.ok issues, { session with
          log := session.log ++ (finished.flatMap (faultLines analyzers) ++ [counts]) })) ∧
    (analyzeFilesBy pool (working analyzers) files).runOn session =
      (.ok issues, { session with log := session.log ++ [counts] }) ∧
    ∀ name category rules file,
      let fails := file.text?.isSome && rules.any (·.failsOn category file)
      let analyzer := Analyzer.ofRules name category rules
      analyzer.failsOn file = fails ∧
        analyzer.contribution file =
          if file.text?.isSome && !fails then
            rules.filterMap fun rule => reported? file (category, rule)
          else [] := by
  intro analyzable issues counts
  refine ⟨⟨pool.finished analyzable, pool.finished_perm analyzable, fun alone => ?_, ?_⟩, ?_,
    analyze_ofRules⟩
  · exact Pool.finished_of_sequential (by simpa [Pool.isSequential] using alone)
  · rw [analyzeFiles_eq]
    exact logs_analyzeFilesBy pool (fun _ => analyzers) files session
  · have runs := logs_analyzeFilesBy pool (working analyzers) files session
    have silent (some : List ChangedFile) :
        some.flatMap (fun file => faultLines (working analyzers file) file) = [] := by
      simp [faultLines_working]
    simp only [silent, flatMap_working, List.nil_append] at runs
    exact runs

theorem runOn_analyzeFiles_failing_between :
    let broken : Rule Severity := .pattern { evalUsage with message := [.fault .unclosed] }
    let mixed := Analyzer.ofRules "mixed" .security [.pattern evalUsage, broken, .pattern evalUsage]
    let script : ChangedFile := ⟨"run.js", .modified, none, some "eval(1)"⟩
    let analyzers := [mixed, .ofTable .security]
    let run := (analyzeFiles (.inOrder 1) analyzers [script]).runOn (.ofReplies [])
    run.1 = .ok [⟨.security, .high, "run.js", none, "Usage of eval() detected",
      "Avoid eval() as it can execute arbitrary code and poses security risks"⟩] ∧
    run.2.log = [⟨.error, "mixed analyzer failed on run.js - skipping"⟩,
      ⟨.info, "Analyzed 1 file(s), found 1 potential issue(s)"⟩] := by
  intro broken mixed script analyzers run
  obtain ⟨⟨finished, -, inTurn, runs⟩, -⟩ := runOn_analyzeFiles_failing (.inOrder 1) analyzers
    [script] (.ofReplies [])
  obtain rfl := inTurn (.inl (by decide))
  simp only [run, runs]
  constructor <;> decide +kernel

end PatchReview
