import PatchReview.Proofs.Number.Order
import PatchReview.Proofs.Schema.Check
import PatchReview.Proofs.Text.Blank
import PatchReview.Report

/-!
# Reviews in the schema

The schema asks for a comment with something to read in it, a confidence from
zero to one, and categories out of three. A review that the check takes is in
the schema (`Review.inSchema_of_check`), whatever the value was: the number may
be written as any JSON number, and infinite ones and `nan` do not get through.
-/

namespace PatchReview

structure Review.InSchema (review : Review) : Prop where
  comment : ∃ c ∈ review.comment.toList, Text.isBlank c = false
  confidence : ∃ q : ℚ, review.confidence.toRat? = some q ∧ 0 ≤ q ∧ q ≤ 1
  categories : ∀ c ∈ review.categories, c.name ∈ ["accessibility", "performance", "security"]
  distinct : review.categories.Nodup

theorem Category.name_mem (category : Category) :
    category.name ∈ ["accessibility", "performance", "security"] := by
  cases category <;> decide

theorem Category.nodup_all : Category.all.Nodup := by decide

namespace Review

theorem of_checkComment (h : checkComment value = .valid text) :
    ∃ c ∈ text.toList, Text.isBlank c = false := by
  obtain ⟨found, -, h⟩ := Schema.Checked.andThen_eq_valid.mp h
  split at h
  · simp at h
  · next filled =>
    cases h
    simpa [Text.strip_eq_nil] using filled

theorem bounds_of_checkConfidence (h : checkConfidence value = .valid share) :
    Schema.Check.number value = .valid share ∧
      (Binary64.ofNat 0).le share = true ∧ share.le (.ofNat 1) = true := by
  unfold checkConfidence at h
  split at h
  -- A whole number and any other one are read in the same way.
  iterate 2
    obtain ⟨found, is, h⟩ := Schema.Checked.andThen_eq_valid.mp h
    split at h
    · simp at h
    · split at h
      · simp at h
      · cases h
        simp_all
  · simp at h

theorem of_checkConfidence (h : checkConfidence value = .valid share) :
    ∃ q : ℚ, share.toRat? = some q ∧ 0 ≤ q ∧ q ≤ 1 := by
  obtain ⟨-, above, below⟩ := bounds_of_checkConfidence h
  have zero := Binary64.toRat?_ofNat_zero
  have one := Binary64.toRat?_ofNat_one
  obtain ⟨q, hq⟩ := Binary64.exists_toRat_of_between zero one above below
  exact ⟨q, hq, (Binary64.le_iff zero hq).mp above, (Binary64.le_iff hq one).mp below⟩

theorem nodup_of_checkCategories (h : checkCategories value = .valid found) : found.Nodup := by
  obtain ⟨listed, -, rfl⟩ := Schema.Checked.map_eq_valid.mp h
  exact Category.nodup_all.filter _

theorem check_eq_valid :
    check value = .valid review ↔
      ∃ fields, value = .obj fields ∧
        Schema.required "comment" checkComment fields = .valid review.comment ∧
        Schema.required "confidence" checkConfidence fields = .valid review.confidence ∧
        Schema.required "categories" checkCategories fields = .valid review.categories := by
  refine Schema.model_eq_valid.trans (exists_congr fun fields => and_congr_right fun _ => ?_)
  constructor
  · intro read
    obtain ⟨withTwo, found, two, hfound, rfl⟩ := Schema.Checked.seq_eq_valid.mp read
    obtain ⟨withOne, share, one, hshare, rfl⟩ := Schema.Checked.seq_eq_valid.mp two
    obtain ⟨text, htext, rfl⟩ := Schema.Checked.map_eq_valid.mp one
    exact ⟨htext, hshare, hfound⟩
  · rintro ⟨htext, hshare, hfound⟩
    rw [ofFields, htext, hshare, hfound]
    rfl

theorem inSchema_of_check (h : check value = .valid review) : review.InSchema := by
  obtain ⟨fields, -, htext, hshare, hfound⟩ := check_eq_valid.mp h
  obtain ⟨_, -, htext⟩ := Schema.required_eq_valid.mp htext
  obtain ⟨_, -, hshare⟩ := Schema.required_eq_valid.mp hshare
  obtain ⟨_, -, hfound⟩ := Schema.required_eq_valid.mp hfound
  exact ⟨of_checkComment htext, of_checkConfidence hshare, fun c _ => c.name_mem,
    nodup_of_checkCategories hfound⟩

end Review

end PatchReview
