import PatchReview.ChangedFile
import PatchReview.Proofs.Provider.Payload
import PatchReview.Proofs.Schema.Restored
import PatchReview.Proofs.Server.Answer

/-!
# Models that are written and read again

A model is read from values of many forms: numbers may be texts or truth values, categories may be
repeated and in any order, and fields that are not asked for are skipped. It is written in one form,
and of that form the same model is read (`Schema.Restores`). Of a report this is so but for its
metadata, in whose form null stands for what is not finite; and metadata that is nested too deeply
has no form. Where a time is not finite, standard JSON has another form, which is not valid
(`check_serialized`).
-/

namespace PatchReview

open Schema (Restores restores_text restores_integer restores_number restores_boolean
  restores_choice restores_model)

-- ---------------------------------------------------------------------------
-- Files and issues
-- ---------------------------------------------------------------------------

theorem FileStatus.restores_check : Restores check (.str ∘ name) :=
  restores_choice (fun status => by cases status <;> rfl) (fun status => by cases status <;> decide)

theorem Category.restores_check : Restores check (.str ∘ name) :=
  restores_choice (fun category => by cases category <;> rfl)
    (fun category => by cases category <;> decide)

theorem Severity.restores_check : Restores check (.str ∘ name) :=
  restores_choice (fun severity => by cases severity <;> rfl)
    (fun severity => by cases severity <;> decide)

namespace ChangedFile

theorem ofFields_eq_valid :
    ofFields fields = .valid file ↔
      Schema.required "filename" Schema.Check.text fields = .valid file.filename ∧
      Schema.required "status" FileStatus.check fields = .valid file.status ∧
      Schema.optional "patch" Schema.Check.text fields = .valid file.patch ∧
      Schema.optional "contents" Schema.Check.text fields = .valid file.contents := by
  constructor
  · intro read
    obtain ⟨_, _, three, contents, rfl⟩ := Schema.Checked.seq_eq_valid.mp read
    obtain ⟨_, _, two, patch, rfl⟩ := Schema.Checked.seq_eq_valid.mp three
    obtain ⟨_, _, one, status, rfl⟩ := Schema.Checked.seq_eq_valid.mp two
    obtain ⟨_, filename, rfl⟩ := Schema.Checked.map_eq_valid.mp one
    exact ⟨filename, status, patch, contents⟩
  · rintro ⟨filename, status, patch, contents⟩
    rw [ofFields, filename, status, patch, contents]
    rfl

theorem restores_check (origin : Schema.Check.Origin) : Restores (checkFrom origin) toJson := by
  refine restores_model (fun fields file read => ?_) origin "ChangedFile"
  obtain ⟨filename, status, patch, contents⟩ := ofFields_eq_valid.mp read
  exact ofFields_eq_valid.mpr
    ⟨restores_text.required filename rfl, FileStatus.restores_check.required status rfl,
      restores_text.optional nofun patch rfl, restores_text.optional nofun contents rfl⟩

end ChangedFile

namespace Issue

theorem ofFields_eq_valid :
    ofFields fields = .valid issue ↔
      Schema.required "type" Category.check fields = .valid issue.category ∧
      Schema.required "severity" Severity.check fields = .valid issue.severity ∧
      Schema.required "file" Schema.Check.text fields = .valid issue.file ∧
      Schema.optional "line" Schema.Check.integer fields = .valid issue.line ∧
      Schema.required "message" Schema.Check.text fields = .valid issue.message ∧
      Schema.optional "suggestion" Schema.Check.text fields = .valid issue.suggestion := by
  constructor
  · intro read
    obtain ⟨_, _, five, suggestion, rfl⟩ := Schema.Checked.seq_eq_valid.mp read
    obtain ⟨_, _, four, message, rfl⟩ := Schema.Checked.seq_eq_valid.mp five
    obtain ⟨_, _, three, line, rfl⟩ := Schema.Checked.seq_eq_valid.mp four
    obtain ⟨_, _, two, file, rfl⟩ := Schema.Checked.seq_eq_valid.mp three
    obtain ⟨_, _, one, severity, rfl⟩ := Schema.Checked.seq_eq_valid.mp two
    obtain ⟨_, category, rfl⟩ := Schema.Checked.map_eq_valid.mp one
    exact ⟨category, severity, file, line, message, suggestion⟩
  · rintro ⟨category, severity, file, line, message, suggestion⟩
    rw [ofFields, category, severity, file, line, message, suggestion]
    rfl

theorem restores_check : Restores check toJson := by
  refine restores_model (fun fields issue read => ?_) .document "Issue"
  obtain ⟨category, severity, file, line, message, suggestion⟩ := ofFields_eq_valid.mp read
  exact ofFields_eq_valid.mpr
    ⟨Category.restores_check.required category rfl, Severity.restores_check.required severity rfl,
      restores_text.required file rfl, restores_integer.optional nofun line rfl,
      restores_text.required message rfl, restores_text.optional nofun suggestion rfl⟩

end Issue

-- ---------------------------------------------------------------------------
-- Reviews
-- ---------------------------------------------------------------------------

theorem Category.distinct_distinct (found : List Category) :
    distinct (distinct found) = distinct found := by
  refine List.filter_congr fun category listed => ?_
  simp [distinct, listed]

namespace Review

theorem restores_checkComment : Restores checkComment .str := by
  intro value comment valid
  obtain ⟨found, -, filled⟩ := Schema.Checked.andThen_eq_valid.mp valid
  split at filled
  · simp at filled
  · next visible =>
    cases filled
    exact if_neg visible

theorem restores_checkConfidence : Restores checkConfidence .num := by
  intro value confidence valid
  suffices ∃ found, checkConfidence (.num found) = .valid confidence ∧ found = confidence by
    obtain ⟨_, is, rfl⟩ := this
    exact is
  unfold checkConfidence at valid
  split at valid
  -- A whole number and any other one are read in the same way.
  iterate 2
    obtain ⟨found, -, bounded⟩ := Schema.Checked.andThen_eq_valid.mp valid
    refine ⟨found, bounded, ?_⟩
    split at bounded
    · simp at bounded
    · split at bounded
      · simp at bounded
      · cases bounded
        rfl
  · simp at valid

theorem restores_checkCategories :
    Restores checkCategories (fun categories => .arr (categories.map (.str ·.name))) := by
  intro value categories valid
  obtain ⟨listed, -, rfl⟩ := Schema.Checked.map_eq_valid.mp valid
  have each : ∀ category ∈ Category.distinct listed,
      Category.check (.str category.name) = .valid category :=
    fun category _ => check_category_eq_valid.mpr rfl
  have again : Schema.Check.items .set Category.check
      (.arr ((Category.distinct listed).map (.str ·.name))) = .valid (Category.distinct listed) :=
    Schema.itemsFrom_map each 0
  rw [checkCategories, again]
  exact congrArg Schema.Checked.valid (Category.distinct_distinct listed)

theorem restores_check : Restores check toJson := by
  intro value review valid
  obtain ⟨fields, -, comment, confidence, categories⟩ := check_eq_valid.mp valid
  exact check_eq_valid.mpr ⟨_, rfl, restores_checkComment.required comment rfl,
    restores_checkConfidence.required confidence rfl,
    restores_checkCategories.required categories rfl⟩

theorem sorted_of_check (valid : check value = .valid review) :
    (review.categories.map (·.name)).Pairwise (· < ·) := by
  obtain ⟨fields, -, -, -, categories⟩ := check_eq_valid.mp valid
  obtain ⟨_, -, is⟩ := Schema.required_eq_valid.mp categories
  exact sorted_of_checkCategories is

end Review

-- ---------------------------------------------------------------------------
-- Reports
-- ---------------------------------------------------------------------------

namespace Summary

theorem ofFields_eq_valid :
    ofFields fields = .valid summary ↔
      Schema.required "files_analyzed" Schema.Check.integer fields =
        .valid summary.filesAnalyzed ∧
      Schema.required "total_issues" Schema.Check.integer fields = .valid summary.totalIssues ∧
      Schema.required "high_severity" Schema.Check.integer fields = .valid summary.highSeverity ∧
      Schema.required "medium_severity" Schema.Check.integer fields =
        .valid summary.mediumSeverity ∧
      Schema.required "low_severity" Schema.Check.integer fields = .valid summary.lowSeverity ∧
      Schema.required "review_time_seconds" Schema.Check.number fields =
        .valid summary.reviewSeconds ∧
      Schema.required "llm_used" Schema.Check.boolean fields = .valid summary.llmUsed ∧
      Schema.optional "provider" Schema.Check.text fields = .valid summary.provider ∧
      Schema.optional "model_name" Schema.Check.text fields = .valid summary.modelName := by
  constructor
  · intro read
    obtain ⟨_, _, eight, model, rfl⟩ := Schema.Checked.seq_eq_valid.mp read
    obtain ⟨_, _, seven, provider, rfl⟩ := Schema.Checked.seq_eq_valid.mp eight
    obtain ⟨_, _, six, used, rfl⟩ := Schema.Checked.seq_eq_valid.mp seven
    obtain ⟨_, _, five, seconds, rfl⟩ := Schema.Checked.seq_eq_valid.mp six
    obtain ⟨_, _, four, low, rfl⟩ := Schema.Checked.seq_eq_valid.mp five
    obtain ⟨_, _, three, medium, rfl⟩ := Schema.Checked.seq_eq_valid.mp four
    obtain ⟨_, _, two, high, rfl⟩ := Schema.Checked.seq_eq_valid.mp three
    obtain ⟨_, _, one, total, rfl⟩ := Schema.Checked.seq_eq_valid.mp two
    obtain ⟨_, files, rfl⟩ := Schema.Checked.map_eq_valid.mp one
    exact ⟨files, total, high, medium, low, seconds, used, provider, model⟩
  · rintro ⟨files, total, high, medium, low, seconds, used, provider, model⟩
    rw [ofFields, files, total, high, medium, low, seconds, used, provider, model]
    rfl

theorem restores_check : Restores check toJson := by
  refine restores_model (fun fields summary read => ?_) .document "ReviewSummary"
  obtain ⟨files, total, high, medium, low, seconds, used, provider, model⟩ :=
    ofFields_eq_valid.mp read
  exact ofFields_eq_valid.mpr
    ⟨restores_integer.required files rfl, restores_integer.required total rfl,
      restores_integer.required high rfl, restores_integer.required medium rfl,
      restores_integer.required low rfl, restores_number.required seconds rfl,
      restores_boolean.required used rfl, restores_text.optional nofun provider rfl,
      restores_text.optional nofun model rfl⟩

/-- In standard JSON a time that is not finite is null, which is no number. -/
theorem not_valid_standard {summary : Summary} (endless : summary.reviewSeconds.isFinite = false)
    (again : Summary) : check summary.toJson.standard ≠ .valid again := by
  intro valid
  obtain ⟨fields, same, read⟩ := Schema.model_eq_valid.mp valid
  obtain ⟨-, -, -, -, -, seconds, -⟩ := ofFields_eq_valid.mp read
  obtain ⟨value, stands, is⟩ := Schema.required_eq_valid.mp seconds
  have fields := Json.obj.inj same
  rw [← fields] at stands
  have written : (Json.num summary.reviewSeconds).standard = value := Option.some.inj stands
  rw [← written, Json.standard, endless, if_neg Bool.false_ne_true] at is
  cases is

end Summary

namespace Json

mutual
theorem depth_standard : (value : Json) → value.standard.depth = value.depth
  | .null | .bool _ | .int _ | .str _ => rfl
  | .num value => by
    unfold standard
    split <;> rfl
  | .arr items => congrArg (· + 1) (itemsDepth_standardItems items)
  | .obj fields => congrArg (· + 1) (fieldsDepth_standardFields fields)
theorem itemsDepth_standardItems :
    (items : List Json) → itemsDepth (standardItems items) = itemsDepth items
  | [] => rfl
  | item :: rest => by
    rw [standardItems, itemsDepth, itemsDepth, depth_standard item, itemsDepth_standardItems rest]
theorem fieldsDepth_standardFields :
    (fields : List (String × Json)) → fieldsDepth (standardFields fields) = fieldsDepth fields
  | [] => rfl
  | (_, value) :: rest => by
    rw [standardFields, fieldsDepth, fieldsDepth, depth_standard value,
      fieldsDepth_standardFields rest]
end

theorem standardFields_standardFields (fields : List (String × Json)) :
    standardFields (standardFields fields) = standardFields fields :=
  standardFields_of_haveStandard _ (haveStandard_standardFields fields)

end Json

namespace Report

def serialized? (report : Report) : Option Json :=
  if report.isWritable then some report.toJson else none

/-- What is read of the form of a report: null stands for what is not finite in the metadata. -/
def restored (report : Report) : Report :=
  { report with metadata := Json.standardFields report.metadata }

theorem serialized?_restored (report : Report) :
    report.restored.serialized? = report.serialized? := by
  have same : report.restored.toJson = report.toJson := by
    simp only [toJson, restored, Json.standardFields_standardFields]
  have depth : report.restored.isWritable = report.isWritable := by
    simp only [isWritable, restored, Json.fieldsDepth_standardFields]
  rw [serialized?, serialized?, same, depth]

theorem of_ofFields (read : ofFields fields = .valid report) :
    Schema.required "issues" (Schema.Check.items .list Issue.check) fields = .valid report.issues ∧
      Schema.required "summary" Summary.check fields = .valid report.summary ∧
      Schema.optional "review" Review.check fields = .valid report.review := by
  obtain ⟨_, _, three, -, rfl⟩ := Schema.Checked.seq_eq_valid.mp read
  obtain ⟨_, _, two, review, rfl⟩ := Schema.Checked.seq_eq_valid.mp three
  obtain ⟨_, _, one, summary, rfl⟩ := Schema.Checked.seq_eq_valid.mp two
  obtain ⟨_, issues, rfl⟩ := Schema.Checked.map_eq_valid.mp one
  exact ⟨issues, summary, review⟩

theorem check_of_fields
    (issues : Schema.required "issues" (Schema.Check.items .list Issue.check) fields = .valid found)
    (summary : Schema.required "summary" Summary.check fields = .valid totals)
    (review : Schema.optional "review" Review.check fields = .valid written)
    (metadata : fields.lookup "metadata" = some (.obj notes)) :
    check (.obj fields) = .valid ⟨found, totals, written, notes⟩ := by
  refine Schema.model_eq_valid.mpr ⟨fields, rfl, ?_⟩
  rw [ofFields, issues, summary, review, metadata]
  rfl

/-- The form of a valid report is valid, with what can be written of its metadata. -/
theorem check_toJson (valid : check value = .valid report) :
    check report.toJson = .valid report.restored := by
  obtain ⟨found, -, read⟩ := Schema.model_eq_valid.mp valid
  obtain ⟨issues, summary, review⟩ := of_ofFields read
  exact check_of_fields ((Issue.restores_check.items .list).required issues rfl)
    (Summary.restores_check.required summary rfl) (Review.restores_check.optional nofun review rfl)
    rfl

theorem inSchema_of_check (valid : check value = .valid report) : report.InSchema := by
  obtain ⟨fields, -, read⟩ := Schema.model_eq_valid.mp valid
  obtain ⟨-, -, written⟩ := of_ofFields read
  intro review among
  rw [Option.mem_def.mp among] at written
  obtain ⟨_, is⟩ := Schema.exists_of_optional_eq_some written
  exact Review.inSchema_of_check is

theorem not_valid_standard {report : Report}
    (endless : report.summary.reviewSeconds.isFinite = false) (again : Report) :
    check report.toJson.standard ≠ .valid again := by
  intro valid
  obtain ⟨fields, same, read⟩ := Schema.model_eq_valid.mp valid
  obtain ⟨-, summary, -⟩ := of_ofFields read
  obtain ⟨value, stands, is⟩ := Schema.required_eq_valid.mp summary
  rw [← Json.obj.inj same] at stands
  have written : report.summary.toJson.standard = value := Option.some.inj stands
  rw [← written] at is
  exact Summary.not_valid_standard endless again.summary is

end Report

-- ---------------------------------------------------------------------------
-- All models
-- ---------------------------------------------------------------------------

theorem ChangedFile.isStandard_toJson (file : ChangedFile) : file.toJson.isStandard = true := by
  have patch := Json.isStandard_ofOption .str file.patch fun _ _ => rfl
  have contents := Json.isStandard_ofOption .str file.contents fun _ _ => rfl
  simp [toJson, Json.isStandard, Json.haveStandard, patch, contents]

/-- The form in which a valid model is written is valid again, and what is made of it is written in
that form. Standard JSON is the same form, unless a time is not finite: the null in its place is
not valid. A report has a form if its metadata is not nested too deeply. -/
theorem check_serialized :
    (∀ origin value file, ChangedFile.checkFrom origin value = .valid file →
      ChangedFile.checkFrom origin file.toJson = .valid file ∧
        file.toJson.standard = file.toJson) ∧
    (∀ value issue, Issue.check value = .valid issue →
      Issue.check issue.toJson = .valid issue ∧ issue.toJson.standard = issue.toJson) ∧
    (∀ value review, Review.check value = .valid review →
      Review.check review.toJson = .valid review ∧ review.toJson.standard = review.toJson ∧
        (review.categories.map (·.name)).Pairwise (· < ·)) ∧
    (∀ value summary, Summary.check value = .valid summary →
      Summary.check summary.toJson = .valid summary ∧
        (summary.reviewSeconds.isFinite = true → summary.toJson.standard = summary.toJson) ∧
        (summary.reviewSeconds.isFinite = false →
          ∀ again, Summary.check summary.toJson.standard ≠ .valid again)) ∧
    ∀ value report form, Report.check value = .valid report → report.serialized? = some form →
      (∃ again, Report.check form = .valid again ∧ again.serialized? = some form) ∧
        (report.summary.reviewSeconds.isFinite = true → form.standard = form) ∧
        (report.summary.reviewSeconds.isFinite = false →
          ∀ again, Report.check form.standard ≠ .valid again) := by
  refine ⟨fun origin value file valid => ⟨ChangedFile.restores_check origin value file valid, ?_⟩,
    fun value issue valid => ⟨Issue.restores_check value issue valid, ?_⟩,
    fun value review valid => ⟨Review.restores_check value review valid, ?_, ?_⟩,
    fun value summary valid => ⟨Summary.restores_check value summary valid, fun finite => ?_,
      fun endless => summary.not_valid_standard endless⟩,
    fun value report form valid serialized => ?_⟩
  · exact (Json.standard_eq_self_iff _).mpr file.isStandard_toJson
  · exact (Json.standard_eq_self_iff _).mpr issue.isStandard_toJson
  · exact (Json.standard_eq_self_iff _).mpr
      (Review.isStandard_toJson (Review.inSchema_of_check valid))
  · exact Review.sorted_of_check valid
  · exact (Json.standard_eq_self_iff _).mpr (summary.isStandard_toJson.trans finite)
  · obtain ⟨writable, rfl⟩ : report.isWritable = true ∧ report.toJson = form := by
      simpa [Report.serialized?] using serialized
    refine ⟨⟨report.restored, Report.check_toJson valid, ?_⟩, ?_, fun endless =>
      Report.not_valid_standard endless⟩
    · rw [report.serialized?_restored, serialized]
    · exact (Report.standard_toJson_eq_self_iff (Report.inSchema_of_check valid)).mpr

-- ---------------------------------------------------------------------------
-- Values that are read leniently
-- ---------------------------------------------------------------------------

theorem Schema.Checked.toExcept_eq_ok {x : Schema.Checked α} :
    x.toExcept = .ok a ↔ x = .valid a := by
  cases x <;> simp [toExcept]

def looseFile : Json :=
  .obj [("status", .str "added"), ("filename", .str "a.js"), ("contents", .null), ("size", .int 3)]

def looseIssue : Json :=
  .obj [("type", .str "security"), ("severity", .str "high"), ("file", .str "a.js"),
    ("line", .str " 7.0 "), ("message", .str "m")]

def looseReview : Json :=
  .obj [("comment", .str "c"), ("confidence", .int 1),
    ("categories", .arr [.str "security", .str "accessibility", .str "security"])]

def looseSummary (seconds : String) : Json :=
  .obj [("files_analyzed", .bool true), ("total_issues", .num (.ofNat 2)),
    ("high_severity", .str "1_0"), ("medium_severity", .str "+5"), ("low_severity", .int 0),
    ("review_time_seconds", .str seconds), ("llm_used", .str "Yes"), ("version", .int 2)]

def looseReport (summary metadata : Json) : Json :=
  .obj [("metadata", metadata), ("issues", .arr [looseIssue]), ("review", looseReview),
    ("summary", summary)]

theorem check_looseFile :
    ChangedFile.checkFrom .request looseFile = .valid ⟨"a.js", .added, none, none⟩ :=
  Schema.Checked.toExcept_eq_ok.mp (by decide +kernel)

theorem check_looseIssue :
    Issue.check looseIssue = .valid ⟨.security, .high, "a.js", some 7, "m", none⟩ :=
  Schema.Checked.toExcept_eq_ok.mp (by decide +kernel)

theorem check_looseReview :
    Review.check looseReview = .valid ⟨"c", .ofNat 1, [.accessibility, .security]⟩ :=
  Schema.Checked.toExcept_eq_ok.mp (by decide +kernel)

theorem check_looseSummary :
    Summary.check (looseSummary "1.5") =
      .valid ⟨1, 2, 10, 5, 0, .finite false 6755399441055744 (-52), true, none, none⟩ :=
  Schema.Checked.toExcept_eq_ok.mp (by decide +kernel)

theorem check_endlessSummary :
    Summary.check (looseSummary "inf") =
      .valid ⟨1, 2, 10, 5, 0, .infinite false, true, none, none⟩ :=
  Schema.Checked.toExcept_eq_ok.mp (by decide +kernel)

theorem check_looseReport (valid : Summary.check summary = .valid found)
    (metadata : List (String × Json)) :
    Report.check (looseReport summary (.obj metadata)) =
      .valid ⟨[⟨.security, .high, "a.js", some 7, "m", none⟩], found,
        some ⟨"c", .ofNat 1, [.accessibility, .security]⟩, metadata⟩ := by
  have issues : Schema.Check.items .list Issue.check (.arr [looseIssue]) =
      .valid [⟨.security, .high, "a.js", some 7, "m", none⟩] := by
    rw [Schema.Check.items, Schema.Check.itemsFrom, check_looseIssue]
    rfl
  have given : looseReview ≠ .null := by
    intro same
    cases same
  exact Report.check_of_fields (Schema.required_eq_valid.mpr ⟨_, rfl, issues⟩)
    (Schema.required_eq_valid.mpr ⟨_, rfl, valid⟩)
    (Schema.optional_eq_some rfl given check_looseReview) rfl

theorem check_serialized_loose :
    (∃ file, ChangedFile.checkFrom .request looseFile = .valid file ∧
      ChangedFile.checkFrom .request file.toJson = .valid file) ∧
    (∃ issue, Issue.check looseIssue = .valid issue ∧ Issue.check issue.toJson = .valid issue) ∧
    (∃ review, Review.check looseReview = .valid review ∧
      Review.check review.toJson = .valid review) ∧
    (∃ summary, Summary.check (looseSummary "1.5") = .valid summary ∧
      Summary.check summary.toJson = .valid summary ∧
      summary.toJson.standard = summary.toJson) ∧
    ∃ report form, Report.check
        (looseReport (looseSummary "1.5") (.obj [("bound", .num (.infinite false))])) =
          .valid report ∧
      report.serialized? = some form ∧
      (∃ again, Report.check form = .valid again ∧ again.serialized? = some form) ∧
      form.standard = form := by
  obtain ⟨files, issues, reviews, summaries, reports⟩ := check_serialized
  have valid := check_looseReport check_looseSummary [("bound", .num (.infinite false))]
  obtain ⟨again, standard, -⟩ := reports _ _ _ valid rfl
  exact ⟨⟨_, check_looseFile, (files _ _ _ check_looseFile).1⟩,
    ⟨_, check_looseIssue, (issues _ _ check_looseIssue).1⟩,
    ⟨_, check_looseReview, (reviews _ _ check_looseReview).1⟩,
    ⟨_, check_looseSummary, (summaries _ _ check_looseSummary).1,
      (summaries _ _ check_looseSummary).2.1 rfl⟩,
    ⟨_, _, valid, rfl, again, standard rfl⟩⟩

def nested : Nat → Json
  | 0 => .null
  | n + 1 => .arr [nested n]

theorem depth_nested (n : Nat) : (nested n).depth = n + 1 := by
  induction n with
  | zero => rfl
  | succ n ih => rw [nested, Json.depth, Json.itemsDepth, Json.itemsDepth, ih, Nat.max_zero]

/-- A report whose metadata is nested too deeply is valid and has no form, and the form of a
summary in standard JSON may be one that is not valid. -/
theorem exists_valid_without_valid_form :
    (¬ ∀ value report, Report.check value = .valid report →
      ∃ form again, report.serialized? = some form ∧ Report.check form = .valid again ∧
        again.serialized? = some form) ∧
    ¬ ∀ value summary, Summary.check value = .valid summary →
      ∃ again, Summary.check summary.toJson.standard = .valid again ∧
        again.toJson.standard = summary.toJson.standard := by
  constructor
  · intro claim
    obtain ⟨form, -, serialized, -⟩ :=
      claim _ _ (check_looseReport check_looseSummary [("deep", nested 255)])
    have deep : Json.fieldsDepth [("deep", nested 255)] = 256 := by
      rw [Json.fieldsDepth, Json.fieldsDepth, depth_nested, Nat.max_zero]
    simp [Report.serialized?, Report.isWritable, deep, Report.depthLimit] at serialized
  · intro claim
    obtain ⟨again, valid, -⟩ := claim _ _ check_endlessSummary
    exact Summary.not_valid_standard rfl again valid

end PatchReview
