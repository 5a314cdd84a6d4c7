import Mathlib.Data.List.Basic
import PatchReview.Proofs.Prompt.Lines

/-!
# Reading a prompt back

Names and messages stand in a prompt as they are, with marks around them that
they may hold themselves. All the same a prompt tells which files it lists and
which issues each file has (`groupByFile_eq_of_build_eq`), as long as no text in
it has lines of its own and no message reads like one with a line number.
-/

namespace PatchReview.Prompt

/-- An issue whose texts are single lines, whose suggestion is not empty, and
whose message cannot be taken for one with a line number. -/
structure IsPlain (issue : Issue) : Prop where
  file : '\n' ∉ issue.file.toList
  message : '\n' ∉ issue.message.toList
  suggestion : ∀ text ∈ issue.suggestion, text ≠ "" ∧ '\n' ∉ text.toList
  unmarked : issue.line = none →
    ∀ (before : String) (number : Int), issue.message ≠ before ++ s!" (line {number})"

-- ---------------------------------------------------------------------------
-- Files
-- ---------------------------------------------------------------------------

theorem status_eq_of_suffix {status other : FileStatus} (h : statusMark status <:+ statusMark other) :
    status = other := by
  revert h
  cases status <;> cases other <;> decide

theorem fileLine_injective : Function.Injective fileLine := by
  rintro ⟨name, status⟩ ⟨other, otherStatus⟩ h
  have same := List.append_cancel_left h
  have sameStatus : status = otherStatus := by
    obtain here | there := List.suffix_or_suffix_of_suffix
      (List.suffix_append name.toList (statusMark status))
      (same ▸ List.suffix_append other.toList (statusMark otherStatus))
    · exact status_eq_of_suffix here
    · exact (status_eq_of_suffix there).symm
  subst sameStatus
  exact congrArg (·, status) (String.toList_inj.mp (List.append_cancel_right same))

theorem eq_of_fileLines_eq {files others : List ChangedFile} (h : fileLines files = fileLines others) :
    files.map (fun file => (file.filename, file.status)) =
      others.map fun file => (file.filename, file.status) := by
  cases files with
  | nil =>
    cases others with
    | nil => rfl
    | cons => simp [fileLines, fileLine] at h
  | cons file rest =>
    cases others with
    | nil => simp [fileLines, fileLine] at h
    | cons other more =>
      refine List.map_injective_iff.mpr fileLine_injective ?_
      simpa [fileLines, Function.comp_def] using h

-- ---------------------------------------------------------------------------
-- Issues
-- ---------------------------------------------------------------------------

theorem label_eq_of_isPrefix (h : label category severity <+: label other otherSeverity) :
    category = other ∧ severity = otherSeverity := by
  revert h
  cases category <;> cases severity <;> cases other <;> cases otherSeverity <;> decide

theorem isDigit_of_mem_repr {number : Int} (h : c ∈ number.repr.toList) :
    c.isDigit = true ∨ c = '-' := by
  have digits {n : Nat} (h : c ∈ n.repr.toList) : c.isDigit = true := by
    rw [Nat.toList_repr] at h
    exact Nat.isDigit_of_mem_toDigits (by decide) (by decide) h
  cases number with
  | ofNat n => exact .inl (digits h)
  | negSucc n =>
    obtain sign | digit := List.mem_append.mp (String.toList_append ▸ h)
    · exact .inr (List.mem_singleton.mp sign)
    · exact .inl (digits digit)

theorem notMem_repr {mark : Char} (h : mark.isDigit = false) (other : mark ≠ '-') (number : Int) :
    mark ∉ number.repr.toList := by
  intro listed
  obtain digit | rfl := isDigit_of_mem_repr listed
  · rw [h] at digit
    cases digit
  · exact other rfl

theorem eq_of_repr_eq {number other : Int} (h : number.repr = other.repr) : number = other := by
  have naturals {m n : Nat} (h : m.repr = n.repr) : m = n := by
    have digits := congrArg (fun text => Nat.ofDigitChars 10 text.toList 0) h
    simpa [Nat.toList_repr, Nat.ofDigitChars_toDigits] using digits
  have unsigned {m n : Nat} (h : m.repr = "-" ++ (n + 1).repr) : False := by
    have sign : '-' ∈ m.repr.toList := by simp [h]
    rw [Nat.toList_repr] at sign
    exact absurd (Nat.isDigit_of_mem_toDigits (by decide) (by decide) sign) (by decide)
  cases number with
  | ofNat m =>
    cases other with
    | ofNat n => exact congrArg Int.ofNat (naturals h)
    | negSucc n => exact (unsigned h).elim
  | negSucc m =>
    cases other with
    | ofNat n => exact (unsigned h.symm).elim
    | negSucc n =>
      exact congrArg Int.negSucc (Nat.succ.inj (naturals ((String.append_right_inj "-").mp h)))

theorem eq_append_lineMark (before : String) (number : Int) :
    (before ++ s!" (line {number})").toList = before.toList ++ lineMark (some number) := by
  simp [toString_text, lineMark]

theorem eq_of_append_lineMark {message other : String} {line otherLine : Option Int}
    (hm : line = none → ∀ (before : String) (number : Int), message ≠ before ++ s!" (line {number})")
    (ho : otherLine = none →
      ∀ (before : String) (number : Int), other ≠ before ++ s!" (line {number})")
    (h : message.toList ++ lineMark line = other.toList ++ lineMark otherLine) :
    message = other ∧ line = otherLine := by
  have texts {text before : String} {number : Int}
      (same : text.toList = before.toList ++ lineMark (some number)) :
      text = before ++ s!" (line {number})" :=
    String.toList_inj.mp (same.trans (eq_append_lineMark before number).symm)
  cases line with
  | none =>
    cases otherLine with
    | none => exact ⟨String.toList_inj.mp (by simpa [lineMark] using h), rfl⟩
    | some number => exact absurd (texts (by simpa [lineMark] using h)) (hm rfl other number)
  | some number =>
    cases otherLine with
    | none => exact absurd (texts (by simpa [lineMark] using h.symm)) (ho rfl message number)
    | some otherNumber =>
      -- The last blank is the one before the number, for a number holds none.
      have noBlank (number : Int) : ' ' ∉ number.repr.toList ++ ")".toList := by
        simpa using notMem_repr (by decide) (by decide) number
      rw [lineMark, lineMark, ← List.append_assoc, ← List.append_assoc] at h
      obtain ⟨same, marks⟩ :=
        append_cons_inj_of_notMem_right (noBlank number) (noBlank otherNumber) h
      have numbers := String.toList_inj.mp (List.append_cancel_right marks)
      exact ⟨String.toList_inj.mp (List.append_cancel_right same),
        congrArg some (eq_of_repr_eq numbers)⟩

theorem eq_of_headline_eq (hi : IsPlain issue) (ho : IsPlain other)
    (h : headline issue = headline other) :
    issue.category = other.category ∧ issue.severity = other.severity ∧
      issue.message = other.message ∧ issue.line = other.line := by
  rw [headline, headline] at h
  have labels : issue.category = other.category ∧ issue.severity = other.severity := by
    obtain here | there := List.prefix_or_prefix_of_prefix
      (List.prefix_append (label issue.category issue.severity) _)
      (h ▸ List.prefix_append (label other.category other.severity) _)
    · exact label_eq_of_isPrefix here
    · exact (label_eq_of_isPrefix there).imp Eq.symm Eq.symm
  rw [labels.1, labels.2] at h
  exact ⟨labels.1, labels.2, eq_of_append_lineMark hi.unmarked ho.unmarked
    (List.append_cancel_left h)⟩

/-- Lines of issues begin with a dash where an issue begins. -/
theorem head_flatMap_issueLines (issues : List Issue) :
    ∀ line ∈ (issues.flatMap issueLines).head?, ∃ rest, line = '-' :: rest := by
  cases issues with
  | nil => nofun
  | cons issue rest =>
    intro line h
    obtain rfl := Option.some.inj h
    exact ⟨_, rfl⟩

theorem eq_of_suggestionLines_append {suggestion other : Option String}
    (hs : ∀ text ∈ suggestion, text ≠ "") (ho : ∀ text ∈ other, text ≠ "")
    (issues others : List Issue)
    (h : suggestionLines suggestion ++ issues.flatMap issueLines =
      suggestionLines other ++ others.flatMap issueLines) :
    suggestion = other ∧ issues.flatMap issueLines = others.flatMap issueLines := by
  have shown {text : String} (nonempty : text ≠ "") :
      suggestionLines (some text) = ["  💡 ".toList ++ text.toList] := by
    simp [suggestionLines, nonempty]
  have apart {text : String} {issues others : List Issue}
      (h : issues.flatMap issueLines = ["  💡 ".toList ++ text.toList] ++ others.flatMap issueLines) :
      False := by
    obtain ⟨rest, begins⟩ := head_flatMap_issueLines issues ("  💡 ".toList ++ text.toList)
      (by rw [h]; rfl)
    cases begins
  cases suggestion with
  | none =>
    cases other with
    | none => exact ⟨rfl, h⟩
    | some text =>
      rw [shown (ho text rfl)] at h
      exact (apart h).elim
  | some text =>
    rw [shown (hs text rfl)] at h
    cases other with
    | none => exact (apart h.symm).elim
    | some otherText =>
      rw [shown (ho otherText rfl)] at h
      obtain ⟨same, rest⟩ := List.cons.inj h
      exact ⟨congrArg some (String.toList_inj.mp (List.append_cancel_left same)), rest⟩

theorem eq_of_flatMap_issueLines {issues others : List Issue}
    (hi : ∀ issue ∈ issues, IsPlain issue ∧ issue.file = file)
    (ho : ∀ issue ∈ others, IsPlain issue ∧ issue.file = file)
    (h : issues.flatMap issueLines = others.flatMap issueLines) : issues = others := by
  induction issues generalizing others with
  | nil =>
    cases others with
    | nil => rfl
    | cons => cases h
  | cons issue rest ih =>
    cases others with
    | nil => cases h
    | cons other more =>
      rw [List.forall_mem_cons] at hi ho
      obtain ⟨⟨plain, named⟩, hi⟩ := hi
      obtain ⟨⟨plainToo, namedToo⟩, ho⟩ := ho
      obtain ⟨first, later⟩ := List.cons.inj h
      obtain ⟨category, severity, message, line⟩ := eq_of_headline_eq plain plainToo first
      obtain ⟨suggestion, later⟩ := eq_of_suggestionLines_append
        (fun text h => (plain.suggestion text h).1) (fun text h => (plainToo.suggestion text h).1)
        rest more later
      obtain rfl := ih hi ho later
      have same : issue = other := by
        cases issue
        cases other
        simp_all
      rw [same]

-- ---------------------------------------------------------------------------
-- Groups
-- ---------------------------------------------------------------------------

theorem eq_of_sectionLines_eq {issues others : List Issue} (hi : ∀ issue ∈ issues, IsPlain issue)
    (ho : ∀ issue ∈ others, IsPlain issue) (hg : group ∈ groupByFile issues)
    (hc : counterpart ∈ groupByFile others) (h : sectionLines group = sectionLines counterpart) :
    group = counterpart := by
  obtain ⟨heading, lines⟩ := List.cons.inj h
  have named : group.1 = counterpart.1 :=
    String.toList_inj.mp (List.append_cancel_right (List.append_cancel_left heading))
  have first : ∀ issue ∈ group.2, IsPlain issue ∧ issue.file = group.1 := by
    intro issue listed
    obtain ⟨found, file⟩ := of_mem_group hg listed
    exact ⟨hi issue found, file⟩
  have second : ∀ issue ∈ counterpart.2, IsPlain issue ∧ issue.file = group.1 := by
    intro issue listed
    obtain ⟨found, file⟩ := of_mem_group hc listed
    exact ⟨ho issue found, file.trans named.symm⟩
  exact Prod.ext named (eq_of_flatMap_issueLines first second lines)

theorem eq_of_map_eq {f : α → β} {items others : List α}
    (told : ∀ item ∈ items, ∀ other ∈ others, f item = f other → item = other)
    (h : items.map f = others.map f) : items = others := by
  induction items generalizing others with
  | nil => exact (List.map_eq_nil_iff.mp h.symm).symm
  | cons item rest ih =>
    cases others with
    | nil => cases h
    | cons other more =>
      obtain ⟨first, later⟩ := List.cons.inj h
      rw [told item List.mem_cons_self other List.mem_cons_self first, ih _ later]
      exact fun item hi other ho => told item (List.mem_cons_of_mem _ hi) other
        (List.mem_cons_of_mem _ ho)

theorem eq_of_issueParagraphs_eq {issues others : List Issue}
    (hi : ∀ issue ∈ issues, IsPlain issue) (ho : ∀ issue ∈ others, IsPlain issue)
    (h : issueParagraphs issues = issueParagraphs others) :
    groupByFile issues = groupByFile others := by
  have apart (group : String × List Issue) :
      sectionLines group ≠ ["No issues detected by static analysis.".toList] := by
    simp [sectionLines, sectionHeading]
  have told := fun group (hg : group ∈ groupByFile issues) counterpart
    (hc : counterpart ∈ groupByFile others) => eq_of_sectionLines_eq hi ho hg hc
  unfold issueParagraphs at h
  generalize groupByFile issues = groups at h told ⊢
  generalize groupByFile others = counterparts at h told ⊢
  cases groups with
  | nil =>
    cases counterparts with
    | nil => rfl
    | cons group rest => exact absurd (List.cons.inj h).1.symm (apart group)
  | cons group rest =>
    cases counterparts with
    | nil => exact absurd (List.cons.inj h).1 (apart group)
    | cons counterpart more => exact eq_of_map_eq told h

-- ---------------------------------------------------------------------------
-- The whole prompt
-- ---------------------------------------------------------------------------

def IsLine (line : List Char) : Prop := line ≠ [] ∧ '\n' ∉ line

theorem isLine_fileLine (h : '\n' ∉ name.toList) (status : FileStatus) :
    IsLine (fileLine (name, status)) := by
  have mark : '\n' ∉ statusMark status := by cases status <;> decide
  simp [IsLine, fileLine, h, mark]

theorem isLine_of_mem_fileLines {files : List ChangedFile}
    (h : ∀ file ∈ files, '\n' ∉ file.filename.toList) (hl : line ∈ fileLines files) :
    IsLine line := by
  unfold fileLines at hl
  split at hl
  · obtain rfl := List.mem_singleton.mp hl
    exact ⟨by decide, by decide⟩
  · obtain ⟨file, listed, rfl⟩ := List.mem_map.mp hl
    exact isLine_fileLine (h file listed) file.status

theorem isLine_headline (h : IsPlain issue) : IsLine (headline issue) := by
  have label : '\n' ∉ label issue.category issue.severity := by
    cases issue.category <;> cases issue.severity <;> decide
  have mark : '\n' ∉ lineMark issue.line := by
    cases issue.line with
    | none => exact List.not_mem_nil
    | some number => simpa [lineMark] using notMem_repr (by decide) (by decide) number
  refine ⟨by simp [headline, Prompt.label], ?_⟩
  simp [headline, label, mark, h.message]

theorem isLine_of_mem_issueLines (h : IsPlain issue) (hl : line ∈ issueLines issue) :
    IsLine line := by
  obtain rfl | later := List.mem_cons.mp hl
  · exact isLine_headline h
  · unfold suggestionLines at later
    split at later
    · next text suggestion =>
      split at later
      · cases later
      · obtain rfl := List.mem_singleton.mp later
        simpa [IsLine] using (h.suggestion text suggestion).2
    · cases later

theorem isLine_of_mem_issueParagraphs {issues : List Issue} (h : ∀ issue ∈ issues, IsPlain issue)
    (hp : lines ∈ issueParagraphs issues) (hl : line ∈ lines) : IsLine line := by
  unfold issueParagraphs at hp
  split at hp
  · obtain rfl := List.mem_singleton.mp hp
    obtain rfl := List.mem_singleton.mp hl
    exact ⟨by decide, by decide⟩
  · obtain ⟨group, listed, rfl⟩ := List.mem_map.mp hp
    obtain rfl | later := List.mem_cons.mp hl
    · obtain ⟨issue, found, rfl⟩ := exists_of_mem_groupByFile listed
      simpa [IsLine, sectionHeading, groupOf] using (h issue found).file
    · obtain ⟨issue, inGroup, later⟩ := List.mem_flatMap.mp later
      exact isLine_of_mem_issueLines (h issue (of_mem_group listed inGroup).1) later

section
variable {issues others : List Issue} {files otherFiles : List ChangedFile}
  (hi : ∀ issue ∈ issues, IsPlain issue) (ho : ∀ issue ∈ others, IsPlain issue)
  (hf : ∀ file ∈ files, '\n' ∉ file.filename.toList)
  (hof : ∀ file ∈ otherFiles, '\n' ∉ file.filename.toList)

include hi hf in
theorem noLineFeed_of_mem_bodyLines (hl : line ∈ bodyLines issues files) : '\n' ∉ line := by
  obtain file | rfl | rfl | paragraph :=
    (List.mem_append.mp hl).imp_right fun h => (List.mem_cons.mp h).imp_right List.mem_cons.mp
  · exact (isLine_of_mem_fileLines hf file).2
  · exact List.not_mem_nil
  · decide
  · obtain empty | ⟨lines, listed, inside⟩ := mem_of_mem_intercalate paragraph
    · rw [List.mem_singleton.mp empty]
      exact List.not_mem_nil
    · exact (isLine_of_mem_issueParagraphs hi listed inside).2

include hi hf ho hof

theorem parts_eq_of_build_eq (h : build issues files = build others otherFiles) :
    fileLines files = fileLines otherFiles ∧ issueParagraphs issues = issueParagraphs others := by
  have texts := congrArg String.toList h
  rw [toList_build, toList_build] at texts
  have lines : bodyLines issues files = bodyLines others otherFiles :=
    intercalate_inj (fun line => noLineFeed_of_mem_bodyLines hi hf)
      (fun line => noLineFeed_of_mem_bodyLines ho hof) (by simp [bodyLines]) (by simp [bodyLines])
      (List.append_cancel_left (List.append_cancel_right texts))
  obtain ⟨sameFiles, rest⟩ := append_cons_inj_of_notMem_left
    (fun empty => (isLine_of_mem_fileLines hf empty).1 rfl)
    (fun empty => (isLine_of_mem_fileLines hof empty).1 rfl) lines
  have nonempty (issues : List Issue) : issueParagraphs issues ≠ [] := by
    unfold issueParagraphs
    split <;> simp_all
  refine ⟨sameFiles, intercalate_inj ?_ ?_ (nonempty issues) (nonempty others)
    (List.cons.inj rest).2⟩
  · exact fun lines listed empty => (isLine_of_mem_issueParagraphs hi listed empty).1 rfl
  · exact fun lines listed empty => (isLine_of_mem_issueParagraphs ho listed empty).1 rfl

theorem groupByFile_eq_of_build_eq (h : build issues files = build others otherFiles) :
    files.map (fun file => (file.filename, file.status)) =
        otherFiles.map (fun file => (file.filename, file.status)) ∧
      groupByFile issues = groupByFile others :=
  (parts_eq_of_build_eq hi ho hf hof h).imp eq_of_fileLines_eq (eq_of_issueParagraphs_eq hi ho)

end

end PatchReview.Prompt
