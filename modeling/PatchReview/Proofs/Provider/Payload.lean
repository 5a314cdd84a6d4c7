import PatchReview.Proofs.Number.Whole
import PatchReview.Proofs.Provider.Reviews
import PatchReview.Proofs.Schema.Violations

/-!
# Payloads field by field

A payload is a review if each of its three fields is fine by itself. If not, what is wrong with
each field is reported, in the order of the fields (`validate_fields`). Only those fields count,
wherever they stand, and of the categories it counts only which ones there are.
-/

namespace PatchReview

open Schema (Checked Violation fieldFaults itemFaults)

/-- The number that a JSON number stands for; `nan` and the infinite ones stand for none. -/
def Json.toRat? : Json → Option ℚ
  | .int n => some n
  | .num x => x.toRat?
  | _ => none

namespace Review

variable {value : Json} {fields others : List (String × Json)}

-- ---------------------------------------------------------------------------
-- The comment
-- ---------------------------------------------------------------------------

def commentFaults : Json → List Violation
  | .str text =>
    if text.toList.all Text.isBlank then [⟨[], .condition "comment must not be empty"⟩] else []
  | _ => [⟨[], .text⟩]

theorem finds_comment (value : Json) : (checkComment value).Finds (commentFaults value) := by
  cases value with
  | str text =>
    have blank : (Text.strip text.toList).isEmpty = true ↔ text.toList.all Text.isBlank = true := by
      rw [List.isEmpty_iff, Text.strip_eq_nil, List.all_eq_true]
    simp only [checkComment, Schema.Check.text, Checked.andThen, commentFaults, blank]
    split
    · exact Checked.finds_fail _
    · exact .valid text
  | _ => exact Checked.finds_fail .text

theorem commentFaults_eq_nil :
    commentFaults value = [] ↔ ∃ text, value = .str text ∧ ∃ c ∈ text.toList, ¬ Text.isBlank c := by
  cases value <;> simp [commentFaults]

-- ---------------------------------------------------------------------------
-- The confidence
-- ---------------------------------------------------------------------------

/-- A whole number may be too long for a double-precision one, and `nan` is not even at most one. -/
def confidenceFaults : Json → List Violation
  | .int n =>
    if Binary64.ofInt? n = none then [⟨[], .number⟩]
    else if 1 < n then [⟨[], .atMost 1⟩]
    else if n < 0 then [⟨[], .atLeast 0⟩]
    else []
  | .num x =>
    if x.le (.ofNat 1) = false then [⟨[], .atMost 1⟩]
    else if (Binary64.ofNat 0).le x = false then [⟨[], .atLeast 0⟩]
    else []
  | _ => [⟨[], .condition "confidence must be a number"⟩]

theorem bounds_ofInt? {n : Int} (h : Binary64.ofInt? n = some x) :
    (x.le (.ofNat 1) = true ↔ n ≤ 1) ∧ ((Binary64.ofNat 0).le x = true ↔ 0 ≤ n) := by
  obtain ⟨q, is, near⟩ := Binary64.toRat?_ofInt? h
  rw [Binary64.le_iff is Binary64.toRat?_ofNat_one, Binary64.le_iff Binary64.toRat?_ofNat_zero is]
  rcases near with rfl | ⟨large, largeToo⟩ | ⟨small, smallToo⟩
  · constructor <;> norm_cast
  · constructor
    · exact iff_of_false (by linarith) (by omega)
    · exact iff_of_true (by linarith) (by omega)
  · constructor
    · exact iff_of_true (by linarith) (by omega)
    · exact iff_of_false (by linarith) (by omega)

theorem finds_confidence (value : Json) :
    (checkConfidence value).Finds (confidenceFaults value) := by
  cases value with
  | int n =>
    simp only [checkConfidence, Schema.Check.number, confidenceFaults]
    cases read : Binary64.ofInt? n with
    | none => exact Checked.finds_fail _
    | some x =>
      obtain ⟨top, bottom⟩ := bounds_ofInt? read
      simp only [Checked.andThen, Bool.not_eq_true', ← Bool.not_eq_true, top, bottom, not_le,
        reduceCtorEq, if_false]
      split
      · exact Checked.finds_fail _
      · split
        · exact Checked.finds_fail _
        · exact .valid x
  | num x =>
    simp only [checkConfidence, Schema.Check.number, confidenceFaults, Checked.andThen,
      Bool.not_eq_true']
    split
    · exact Checked.finds_fail _
    · split
      · exact Checked.finds_fail _
      · exact .valid x
  | _ => exact Checked.finds_fail _

theorem confidenceFaults_eq_nil :
    confidenceFaults value = [] ↔ ∃ q, value.toRat? = some q ∧ 0 ≤ q ∧ q ≤ 1 := by
  cases value with
  | int n =>
    have top : (n : ℚ) ≤ 1 ↔ n ≤ 1 := by norm_cast
    simp only [confidenceFaults, Json.toRat?, Option.some.injEq, exists_eq_left',
      Int.cast_nonneg_iff, top]
    constructor
    · intro none
      split at none
      · cases none
      · split at none
        · cases none
        · split at none
          · cases none
          · omega
    · rintro ⟨above, below⟩
      obtain rfl | rfl : n = 0 ∨ n = 1 := by omega
      · rfl
      · rfl
  | num x =>
    have zero := Binary64.toRat?_ofNat_zero
    have one := Binary64.toRat?_ofNat_one
    simp only [confidenceFaults, Json.toRat?]
    constructor
    · intro none
      split at none
      · cases none
      · next below =>
        split at none
        · cases none
        · next above =>
          rw [Bool.not_eq_false] at above below
          obtain ⟨q, is⟩ := Binary64.exists_toRat_of_between zero one above below
          exact ⟨q, is, (Binary64.le_iff zero is).mp above, (Binary64.le_iff is one).mp below⟩
    · rintro ⟨q, is, above, below⟩
      rw [(Binary64.le_iff is one).mpr below, (Binary64.le_iff zero is).mpr above]
      rfl
  | _ => simp [confidenceFaults, Json.toRat?]

-- ---------------------------------------------------------------------------
-- The categories
-- ---------------------------------------------------------------------------

def categoryNames : List String := ["accessibility", "performance", "security"]

def categoryFaults : Json → List Violation
  | .str text =>
    if Text.isBroken text then [⟨[], .unicodeText⟩]
    else if text ∈ categoryNames then []
    else [⟨[], .oneOf categoryNames⟩]
  | _ => [⟨[], .oneOf categoryNames⟩]

def categoriesFaults : Json → List Violation
  | .arr items => itemFaults categoryFaults items 0
  | _ => [⟨[], .set⟩]

theorem mem_categoryNames : text ∈ categoryNames ↔ ∃ category : Category, text = category.name := by
  constructor
  · intro listed
    have named : text ∈ Category.all.map (·.name) := listed
    obtain ⟨category, -, same⟩ := List.mem_map.mp named
    exact ⟨category, same.symm⟩
  · rintro ⟨category, rfl⟩
    exact category.name_mem

theorem lookup_names_eq_some {category : Category} :
    Category.names.lookup text = some category ↔ text = category.name := by
  constructor
  · intro found
    obtain ⟨before, after, whole, -⟩ := List.lookup_eq_some_iff.mp found
    have listed : (text, category) ∈ Category.names := by simp [whole]
    obtain ⟨other, -, same⟩ := List.mem_map.mp listed
    cases same
    rfl
  · rintro rfl
    cases category <;> decide

theorem finds_category (value : Json) : (Category.check value).Finds (categoryFaults value) := by
  cases value with
  | str text =>
    simp only [Category.check, Schema.Check.choice, Schema.Check.wholeText, categoryFaults]
    split
    · exact Checked.finds_fail _
    · cases found : Category.names.lookup text with
      | none =>
        have absent : text ∉ categoryNames := by
          rw [mem_categoryNames]
          rintro ⟨category, same⟩
          rw [lookup_names_eq_some.mpr same] at found
          cases found
        rw [if_neg absent]
        exact Checked.finds_fail _
      | some category =>
        rw [if_pos (mem_categoryNames.mpr ⟨category, lookup_names_eq_some.mp found⟩)]
        exact .valid category
  | _ => exact Checked.finds_fail _

theorem finds_categories (value : Json) :
    (checkCategories value).Finds (categoriesFaults value) := by
  cases value with
  | arr items => exact (Schema.finds_itemsFrom finds_category items 0).map _
  | _ => exact Checked.finds_fail .set

theorem categoryFaults_eq_nil :
    categoryFaults value = [] ↔ ∃ category : Category, value = .str category.name := by
  cases value with
  | str text =>
    have whole (category : Category) : Text.isBroken category.name = false := by
      cases category <;> decide
    simp only [categoryFaults, Json.str.injEq, ← mem_categoryNames]
    constructor
    · intro none
      split at none
      · cases none
      · split at none
        · assumption
        · cases none
    · intro listed
      obtain ⟨category, rfl⟩ := mem_categoryNames.mp listed
      rw [whole, if_pos listed]
      rfl
  | _ => simp [categoryFaults]

theorem categoriesFaults_eq_nil :
    categoriesFaults value = [] ↔
      ∃ items, value = .arr items ∧
        ∀ item ∈ items, ∃ category : Category, item = .str category.name := by
  cases value with
  | arr items => simp [categoriesFaults, Schema.itemFaults_eq_nil, categoryFaults_eq_nil]
  | _ => simp [categoriesFaults]

theorem places_categoryFaults (item : Json × Nat) :
    ((categoryFaults item.1).map (·.under (.index item.2))).map (·.place) =
      if (categoryFaults item.1).isEmpty then [] else [[.index item.2]] := by
  obtain ⟨value, index⟩ := item
  cases value with
  | str text =>
    simp only [categoryFaults]
    split
    · rfl
    · split <;> rfl
  | _ => rfl

/-- An item that is none of the three is reported once, by its index. -/
theorem places_categoriesFaults (items : List Json) :
    (categoriesFaults (.arr items)).map (·.place) =
      (items.zipIdx.filter fun item => !(categoryFaults item.1).isEmpty).map
        fun item => [.index item.2] := by
  rw [categoriesFaults, itemFaults]
  induction items.zipIdx with
  | nil => rfl
  | cons item rest ih =>
    rw [List.flatMap_cons, List.map_append, ih, places_categoryFaults, List.filter_cons]
    cases (categoryFaults item.1).isEmpty <;> simp

-- ---------------------------------------------------------------------------
-- The payload
-- ---------------------------------------------------------------------------

def payloadFaults : Json → List Violation
  | .obj fields =>
    fieldFaults "comment" commentFaults fields ++
      fieldFaults "confidence" confidenceFaults fields ++
      fieldFaults "categories" categoriesFaults fields
  | _ => [⟨[], .model modelName⟩]

theorem finds_payload (payload : Json) : (check payload).Finds (payloadFaults payload) := by
  cases payload with
  | obj fields =>
    exact (((Schema.finds_required finds_comment "comment" fields).map Review.mk).both
      (Schema.finds_required finds_confidence "confidence" fields)).both
        (Schema.finds_required finds_categories "categories" fields)
  | _ => exact Checked.finds_fail _

def HasComment (fields : List (String × Json)) : Prop :=
  ∃ text, fields.lookup "comment" = some (.str text) ∧ ∃ c ∈ text.toList, ¬ Text.isBlank c

def HasConfidence (fields : List (String × Json)) : Prop :=
  ∃ value q, fields.lookup "confidence" = some value ∧ value.toRat? = some q ∧ 0 ≤ q ∧ q ≤ 1

def HasCategories (fields : List (String × Json)) : Prop :=
  ∃ items, fields.lookup "categories" = some (.arr items) ∧
    ∀ item ∈ items, ∃ category : Category, item = .str category.name

theorem hasComment_iff : fieldFaults "comment" commentFaults fields = [] ↔ HasComment fields := by
  simp only [Schema.fieldFaults_eq_nil, commentFaults_eq_nil]
  constructor
  · rintro ⟨_, found, text, rfl, some⟩
    exact ⟨text, found, some⟩
  · rintro ⟨text, found, some⟩
    exact ⟨_, found, text, rfl, some⟩

theorem hasConfidence_iff :
    fieldFaults "confidence" confidenceFaults fields = [] ↔ HasConfidence fields := by
  simp only [Schema.fieldFaults_eq_nil, confidenceFaults_eq_nil, HasConfidence, exists_and_left]

theorem hasCategories_iff :
    fieldFaults "categories" categoriesFaults fields = [] ↔ HasCategories fields := by
  simp only [Schema.fieldFaults_eq_nil, categoriesFaults_eq_nil]
  constructor
  · rintro ⟨_, found, items, rfl, all⟩
    exact ⟨items, found, all⟩
  · rintro ⟨items, found, all⟩
    exact ⟨_, found, items, rfl, all⟩

theorem payloadFaults_eq_nil {payload : Json} :
    payloadFaults payload = [] ↔
      ∃ fields, payload = .obj fields ∧ HasComment fields ∧ HasConfidence fields ∧
        HasCategories fields := by
  cases payload with
  | obj fields =>
    simp [payloadFaults, hasComment_iff, hasConfidence_iff, hasCategories_iff]
  | _ => simp [payloadFaults]

-- ---------------------------------------------------------------------------
-- The review
-- ---------------------------------------------------------------------------

/-- A review holds what the fields of a payload say, and is written with its categories in
order and none of them twice. -/
structure IsReadFrom (fields : List (String × Json)) (review : Review) : Prop where
  comment : fields.lookup "comment" = some (.str review.comment)
  confidence : ∃ value, fields.lookup "confidence" = some value ∧
    value.toRat? = review.confidence.toRat?
  categories : ∃ items, fields.lookup "categories" = some (.arr items) ∧
    ∀ category, category ∈ review.categories ↔ .str category.name ∈ items
  written : ∃ names : List String, names.Pairwise (· < ·) ∧
    (∀ name, name ∈ names ↔ ∃ category ∈ review.categories, category.name = name) ∧
    review.toJson = .obj [("comment", .str review.comment), ("confidence", .num review.confidence),
      ("categories", .arr (names.map .str))]

theorem eq_str_of_checkComment (h : checkComment value = .valid text) : value = .str text := by
  obtain ⟨found, is, h⟩ := Checked.andThen_eq_valid.mp h
  split at h
  · cases h
  · cases h
    cases value <;> cases is
    rfl

theorem toRat?_of_checkConfidence (h : checkConfidence value = .valid share) :
    value.toRat? = share.toRat? := by
  obtain ⟨q, is, above, below⟩ := confidenceFaults_eq_nil.mp ((finds_confidence value).eq_nil h)
  have number := (bounds_of_checkConfidence h).1
  cases value with
  | int n =>
    cases is
    cases read : Binary64.ofInt? n with
    | none => simp [Schema.Check.number, read] at number
    | some x =>
      obtain rfl : x = share := by simpa [Schema.Check.number, read] using number
      obtain ⟨q, same, rfl | ⟨large, -⟩ | ⟨small, -⟩⟩ := Binary64.toRat?_ofInt? read
      · exact same.symm
      · have : n ≤ 1 := by exact_mod_cast below
        omega
      · have : 0 ≤ n := by exact_mod_cast above
        omega
  | num x =>
    cases number
    rfl
  | _ => cases is

theorem check_category_eq_valid {category : Category} :
    Category.check value = .valid category ↔ value = .str category.name := by
  constructor
  · intro h
    obtain ⟨other, rfl⟩ := categoryFaults_eq_nil.mp ((finds_category value).eq_nil h)
    cases other <;> cases h <;> rfl
  · rintro rfl
    cases category <;> rfl

theorem mem_of_checkCategories (h : checkCategories (.arr items) = .valid found) :
    category ∈ found ↔ .str category.name ∈ items := by
  obtain ⟨listed, is, rfl⟩ := Checked.map_eq_valid.mp h
  have every : category ∈ Category.all := by cases category <;> decide
  rw [Category.distinct, List.mem_filter, List.contains_iff_mem, Schema.mem_of_itemsFrom is]
  simp only [check_category_eq_valid, exists_eq_right, every, true_and]

theorem sorted_of_checkCategories (h : checkCategories value = .valid found) :
    (found.map (·.name)).Pairwise (· < ·) := by
  obtain ⟨listed, -, rfl⟩ := Checked.map_eq_valid.mp h
  have inOrder : (Category.all.map (·.name)).Pairwise (· < ·) := by decide
  exact inOrder.sublist (List.filter_sublist.map _)

theorem isReadFrom_of_check (h : check (.obj fields) = .valid review) :
    IsReadFrom fields review := by
  obtain ⟨_, ⟨⟩, comment, confidence, categories⟩ := check_eq_valid.mp h
  obtain ⟨text, hasComment, comment⟩ := Schema.required_eq_valid.mp comment
  obtain ⟨number, hasConfidence, confidence⟩ := Schema.required_eq_valid.mp confidence
  obtain ⟨listed, hasCategories, categories⟩ := Schema.required_eq_valid.mp categories
  obtain ⟨items, rfl, -⟩ :=
    categoriesFaults_eq_nil.mp ((finds_categories listed).eq_nil categories)
  refine ⟨eq_str_of_checkComment comment ▸ hasComment,
    ⟨number, hasConfidence, toRat?_of_checkConfidence confidence⟩,
    ⟨items, hasCategories, fun _ => mem_of_checkCategories categories⟩,
    ⟨review.categories.map (·.name), sorted_of_checkCategories categories, ?_, ?_⟩⟩
  · simp
  · simp [toJson]

-- ---------------------------------------------------------------------------
-- What does not count
-- ---------------------------------------------------------------------------

def fieldNames : List String := ["comment", "confidence", "categories"]

theorem check_congr (same : ∀ name ∈ fieldNames, fields.lookup name = others.lookup name) :
    check (.obj fields) = check (.obj others) := by
  simp only [fieldNames, List.forall_mem_cons] at same
  obtain ⟨comment, confidence, categories, -⟩ := same
  simp only [check, Schema.Check.model, ofFields, Schema.required, comment, confidence, categories]

theorem lookup_eq_some_iff_mem (distinct : (fields.map (·.1)).Nodup) :
    fields.lookup name = some value ↔ (name, value) ∈ fields := by
  induction fields with
  | nil => simp
  | cons field rest ih =>
    obtain ⟨key, first⟩ := field
    rw [List.map_cons, List.nodup_cons] at distinct
    by_cases same : name = key
    · subst same
      have absent : (name, value) ∉ rest := fun among =>
        distinct.1 (List.mem_map_of_mem (f := (·.1)) among)
      simp [absent, eq_comm]
    · simp [List.lookup_cons, beq_false_of_ne same, ih distinct.2, same]

theorem lookup_eq_of_perm (perm : others.Perm fields) (distinct : (fields.map (·.1)).Nodup)
    (name : String) : others.lookup name = fields.lookup name := by
  have distinctToo := (perm.map (·.1)).nodup_iff.mpr distinct
  refine Option.ext fun value => ?_
  rw [lookup_eq_some_iff_mem distinctToo, lookup_eq_some_iff_mem distinct, perm.mem_iff]

theorem lookup_append_of_absent {extra : List (String × Json)}
    (absent : ∀ field ∈ extra, field.1 ≠ name) :
    (fields ++ extra).lookup name = fields.lookup name := by
  have none : extra.lookup name = none :=
    List.lookup_eq_none_iff.mpr fun field among => bne_iff_ne.mpr (absent field among).symm
  rw [List.lookup_append, none, Option.or_none]

/-- The order of the fields does not count, nor do fields of other names. -/
theorem check_of_perm_append {extra : List (String × Json)}
    (distinct : ((fields ++ extra).map (·.1)).Nodup)
    (absent : ∀ field ∈ extra, field.1 ∉ fieldNames) (perm : others.Perm (fields ++ extra)) :
    check (.obj others) = check (.obj fields) := by
  refine check_congr fun name listed => ?_
  rw [lookup_eq_of_perm perm distinct, lookup_append_of_absent]
  rintro field among rfl
  exact absent field among listed

theorem eq_filter_of_checkCategories (h : checkCategories value = .valid found) :
    found = Category.all.filter (· ∈ found) := by
  obtain ⟨listed, -, rfl⟩ := Checked.map_eq_valid.mp h
  refine List.filter_congr fun category every => ?_
  simp [Category.distinct, every]

theorem checkCategories_congr {items otherItems : List Json}
    (same : ∀ item, item ∈ items ↔ item ∈ otherItems)
    (h : checkCategories (.arr items) = .valid found) :
    checkCategories (.arr otherItems) = .valid found := by
  obtain ⟨_, ⟨⟩, all⟩ := categoriesFaults_eq_nil.mp ((finds_categories _).eq_nil h)
  have fine : categoriesFaults (.arr otherItems) = [] :=
    categoriesFaults_eq_nil.mpr ⟨_, rfl, fun item among => all item ((same item).mpr among)⟩
  obtain ⟨foundToo, is⟩ := (finds_categories _).exists_valid fine
  have members (category : Category) : category ∈ foundToo ↔ category ∈ found := by
    rw [mem_of_checkCategories is, mem_of_checkCategories h, same]
  rw [is, eq_filter_of_checkCategories is, eq_filter_of_checkCategories h]
  simp only [members]

theorem check_of_same_categories {items otherItems : List Json}
    (comment : fields.lookup "comment" = others.lookup "comment")
    (confidence : fields.lookup "confidence" = others.lookup "confidence")
    (categories : fields.lookup "categories" = some (.arr items))
    (otherCategories : others.lookup "categories" = some (.arr otherItems))
    (same : ∀ item, item ∈ items ↔ item ∈ otherItems) (h : check (.obj fields) = .valid review) :
    check (.obj others) = .valid review := by
  obtain ⟨_, ⟨⟩, hasComment, hasConfidence, hasCategories⟩ := check_eq_valid.mp h
  obtain ⟨_, listed, is⟩ := Schema.required_eq_valid.mp hasCategories
  rw [categories] at listed
  cases listed
  refine check_eq_valid.mpr ⟨others, rfl, ?_, ?_, ?_⟩
  · rwa [Schema.required, ← comment]
  · rwa [Schema.required, ← confidence]
  · exact Schema.required_eq_valid.mpr ⟨_, otherCategories, checkCategories_congr same is⟩

end Review

-- ---------------------------------------------------------------------------
-- Validation
-- ---------------------------------------------------------------------------

namespace Payload

open Review

def rejected (source : String) (faults : List Violation) (session : Session) :
    Except Failure Review × Session :=
  (.error (.invalidOutput (.invalid source modelName faults)),
    session.note .error
      s!"Failed to validate {source} response: {Schema.headline modelName faults}")

theorem runOn_validate_of_valid (h : Review.check payload = .valid review) (source : String)
    (session : Session) : (validate source payload).runOn session = (.ok review, session) := by
  simp [validate, h]

theorem runOn_validate_of_invalid (h : Review.check payload = .invalid faults) (source : String)
    (session : Session) :
    (validate source payload).runOn session = rejected source faults session := by
  simp [validate, h, rejected, Session.logError, Action.runOn_bind]

/-- A payload is taken exactly if each of its three fields is fine by itself, and rejected with
what is wrong with each of them, in order, a category by its index. Other fields do not count, nor
does the order of the fields; the order of the categories and how often each is named do not
count for the review. -/
theorem validate_fields (source : String) (session : Session) :
    let run (payload : Json) := (validate source payload).runOn session
    (∀ payload,
      (∃ fields review, payload = .obj fields ∧ HasComment fields ∧ HasConfidence fields ∧
        HasCategories fields ∧ IsReadFrom fields review ∧ run payload = (.ok review, session)) ∨
      (¬ ∃ fields, payload = .obj fields ∧ HasComment fields ∧ HasConfidence fields ∧
        HasCategories fields) ∧ payloadFaults payload ≠ [] ∧
        run payload = rejected source (payloadFaults payload) session) ∧
    (∀ payload, (∀ fields, payload ≠ .obj fields) →
      payloadFaults payload = [⟨[], .model modelName⟩]) ∧
    (∀ fields,
      let comment := fieldFaults "comment" commentFaults fields
      let confidence := fieldFaults "confidence" confidenceFaults fields
      let categories := fieldFaults "categories" categoriesFaults fields
      payloadFaults (.obj fields) = comment ++ confidence ++ categories ∧
        (comment = [] ↔ HasComment fields) ∧ (confidence = [] ↔ HasConfidence fields) ∧
        (categories = [] ↔ HasCategories fields)) ∧
    (∀ items, (categoriesFaults (.arr items)).map (·.place) =
      (items.zipIdx.filter fun item => !(categoryFaults item.1).isEmpty).map
        fun item => [.index item.2]) ∧
    (∀ faults, (OutputFault.invalid source modelName faults).message =
      "Invalid response format from " ++ source ++ ": " ++ (toString faults.length ++
        " validation " ++ (if faults.length = 1 then "error" else "errors") ++ " for " ++
        "ReviewResponse")) ∧
    (∀ fields extra others : List (String × Json), ((fields ++ extra).map (·.1)).Nodup →
      (∀ field ∈ extra, field.1 ∉ fieldNames) → others.Perm (fields ++ extra) →
      run (.obj others) = run (.obj fields)) ∧
    ∀ (fields others : List (String × Json)) (items otherItems : List Json) (review : Review),
      fields.lookup "comment" = others.lookup "comment" →
      fields.lookup "confidence" = others.lookup "confidence" →
      fields.lookup "categories" = some (.arr items) →
      others.lookup "categories" = some (.arr otherItems) →
      (∀ item, item ∈ items ↔ item ∈ otherItems) →
      run (.obj fields) = (.ok review, session) → run (.obj others) = (.ok review, session) := by
  intro run
  refine ⟨fun payload => ?_, fun payload plain => ?_,
    fun fields => ⟨rfl, hasComment_iff, hasConfidence_iff, hasCategories_iff⟩,
    places_categoriesFaults, fun _ => rfl, fun fields extra others distinct absent perm => ?_,
    fun fields others items otherItems review comment confidence categories otherCategories same
      taken => ?_⟩
  · have finds := finds_payload payload
    by_cases none : payloadFaults payload = []
    · obtain ⟨fields, rfl, comment, confidence, categories⟩ := payloadFaults_eq_nil.mp none
      obtain ⟨review, valid⟩ := finds.exists_valid none
      exact .inl ⟨fields, review, rfl, comment, confidence, categories, isReadFrom_of_check valid,
        runOn_validate_of_valid valid source session⟩
    · exact .inr ⟨mt payloadFaults_eq_nil.mpr none, none,
        runOn_validate_of_invalid (finds.eq_invalid none) source session⟩
  · cases payload with
    | obj fields => exact absurd rfl (plain fields)
    | _ => rfl
  · simp only [run, validate, check_of_perm_append distinct absent perm]
  · have valid := check_of_same_categories comment confidence categories otherCategories same
      (check_of_validate taken)
    exact runOn_validate_of_valid valid source session

/-- Fields in another order with one more, categories that are repeated, and three faults. -/
theorem validate_fields_mixed :
    let session := Session.ofReplies []
    let run (payload : Json) := (validate "LLM" payload).runOn session
    let start : List (String × Json) := [("comment", .str "ok"), ("confidence", .int 1)]
    let plain := start ++ [("categories", .arr [.str "accessibility", .str "security"])]
    let repeated := start ++
      [("categories", .arr [.str "security", .str "accessibility", .str "security"])]
    let turned := ("more", .null) :: plain.reverse
    let broken : List (String × Json) :=
      [("categories", .arr [.str "security", .str "style", .null]), ("comment", .str " ")]
    let review : Review := ⟨"ok", .ofNat 1, [.accessibility, .security]⟩
    run (.obj plain) = (.ok review, session) ∧ run (.obj turned) = run (.obj plain) ∧
      run (.obj repeated) = (.ok review, session) ∧
      run (.obj broken) = rejected "LLM"
        [⟨[.field "comment"], .condition "comment must not be empty"⟩,
          ⟨[.field "confidence"], .required⟩,
          ⟨[.field "categories", .index 1], .oneOf categoryNames⟩,
          ⟨[.field "categories", .index 2], .oneOf categoryNames⟩] session := by
  intro session run start plain repeated turned broken review
  obtain ⟨outcome, -, -, -, -, order, sets⟩ := validate_fields "LLM" session
  have confidence : checkConfidence (.int 1) = .valid (.ofNat 1) := by
    have read : Binary64.ofInt? 1 = some (.ofNat 1) := by decide +kernel
    have top : (Binary64.ofNat 1).le (.ofNat 1) = true := by decide +kernel
    have bottom : (Binary64.ofNat 0).le (.ofNat 1) = true := by decide +kernel
    simp [checkConfidence, Schema.Check.number, read, top, bottom, Checked.andThen]
  have valid : check (.obj plain) = .valid review := by
    refine check_eq_valid.mpr ⟨plain, rfl, rfl, ?_, rfl⟩
    exact Schema.required_eq_valid.mpr ⟨_, rfl, confidence⟩
  have taken : run (.obj plain) = (.ok review, session) :=
    runOn_validate_of_valid valid "LLM" session
  have perm : turned.Perm (plain ++ [("more", .null)]) :=
    ((List.reverse_perm plain).cons _).trans (List.perm_append_singleton _ _).symm
  refine ⟨taken, order plain [("more", .null)] turned (by decide) (by decide) perm, ?_, ?_⟩
  · refine sets plain repeated _ _ review rfl rfl rfl rfl (fun item => ?_) taken
    simp only [List.mem_cons, List.not_mem_nil, or_false]
    constructor
    · rintro (rfl | rfl) <;> simp
    · rintro (rfl | rfl | rfl) <;> simp
  · have faults : payloadFaults (.obj broken) = _ := rfl
    rcases outcome (.obj broken) with ⟨fields, _, is, text, number, listed, -⟩ | ⟨-, -, is⟩
    · have none := payloadFaults_eq_nil.mpr ⟨fields, is, text, number, listed⟩
      cases faults.symm.trans none
    · exact is

/-- A number that is neither below zero nor above one and is rejected all the same. -/
theorem exists_number_rejected :
    let session := Session.ofReplies []
    let fields : List (String × Json) := [("comment", .str "x"), ("confidence", .num .nan),
      ("categories", .arr [.str "security"])]
    HasComment fields ∧ HasCategories fields ∧ fields.lookup "confidence" = some (.num .nan) ∧
      Binary64.nan.lt (.ofNat 0) = false ∧ (Binary64.ofNat 1).lt .nan = false ∧
      (validate "LLM" (.obj fields)).runOn session =
        rejected "LLM" [⟨[.field "confidence"], .atMost 1⟩] session := by
  intro session fields
  refine ⟨⟨"x", rfl, 'x', by decide, by decide⟩, ⟨_, rfl, ?_⟩, rfl, rfl, rfl, ?_⟩
  · intro item listed
    exact ⟨.security, List.mem_singleton.mp listed⟩
  · exact runOn_validate_of_invalid rfl "LLM" session

end Payload

end PatchReview
