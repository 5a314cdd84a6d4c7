import Mathlib.Data.List.TakeWhile
import PatchReview.Proofs.Pattern.Spans
import PatchReview.Rule.Tables

/-!
# Quoted texts

The rules read a quoted text up to the next quote, single or double, whatever the quote
was that opened it.
-/

namespace PatchReview

open Text (Spells)

variable {text value rest : List Char} {quote : Char}

def IsQuote (c : Char) : Prop := c = '"' ∨ c = '\''

instance : Decidable (IsQuote c) := inferInstanceAs (Decidable (_ ∨ _))

theorem IsQuote.ne_closing (h : IsQuote c) : '>' ≠ c := by
  rintro rfl
  revert h
  decide

def QuoteFree (text : List Char) : Prop := ∀ c ∈ text, ¬ IsQuote c

instance : Decidable (QuoteFree text) := List.decidableBAll _ text

def upToQuote (text : List Char) : List Char := text.takeWhile (¬ IsQuote ·)

@[simp] theorem has_quoteSign : quoteSign.has c = true ↔ IsQuote c := by
  simp [quoteSign, CharSet.has, IsQuote]

@[simp] theorem spans_inQuotes :
    (Pattern.many inQuotes).Spans before taken after ↔ QuoteFree taken := by
  simp [inQuotes, CharSet.has, QuoteFree, IsQuote]

theorem quoteFree_append : QuoteFree (text ++ rest) ↔ QuoteFree text ∧ QuoteFree rest := by
  simp only [QuoteFree, List.forall_mem_append]

theorem QuoteFree.of_spells (spells : Spells text word) (free : QuoteFree word.toList) :
    QuoteFree text := by
  rintro c inside (rfl | rfl)
  · exact spells.notMem (by decide) (fun listed => free _ listed (.inl rfl)) inside
  · exact spells.notMem (by decide) (fun listed => free _ listed (.inr rfl)) inside

theorem upToQuote_append (free : QuoteFree text) (rest : List Char) :
    upToQuote (text ++ rest) = text ++ upToQuote rest :=
  List.takeWhile_append_of_pos fun c inside => decide_eq_true (free c inside)

theorem upToQuote_cons (h : IsQuote quote) : upToQuote (quote :: rest) = [] := by
  simp [upToQuote, h]

theorem quoteFree_upToQuote (text : List Char) : QuoteFree (upToQuote text) := by
  intro c inside
  simpa using List.mem_takeWhile_imp (p := fun c => decide (¬ IsQuote c)) inside

theorem exists_quote (h : ¬ QuoteFree text) :
    ∃ quote rest, text = upToQuote text ++ quote :: rest ∧ IsQuote quote := by
  cases left : text.dropWhile (¬ IsQuote ·) with
  | nil =>
    refine absurd (fun c inside => ?_) h
    exact of_decide_eq_true (List.dropWhile_eq_nil_iff.mp left c inside)
  | cons quote rest =>
    refine ⟨quote, rest, ?_, ?_⟩
    · rw [upToQuote, ← left, List.takeWhile_append_dropWhile]
    · have stops := List.head?_dropWhile_not (fun c => decide (¬ IsQuote c)) text
      rw [left] at stops
      simpa using stops

theorem exists_between_of_quoteFree {last : Char} (free : QuoteFree text)
    (isQuote : IsQuote quote) (unfree : ¬ QuoteFree rest)
    (h : others ++ last :: text = before ++ quote :: rest) :
    ∃ between, others = before ++ quote :: between ∧ rest = between ++ last :: text := by
  rcases List.append_eq_append_iff.mp h with ⟨more, rfl, whole⟩ | ⟨left, rfl, whole⟩
  · cases more with
    | nil =>
      obtain ⟨-, rfl⟩ := List.cons.inj whole
      exact absurd free unfree
    | cons c more =>
      obtain ⟨-, rfl⟩ := List.cons.inj whole
      exact absurd isQuote (free quote (by simp))
  · cases left with
    | nil =>
      obtain ⟨-, rfl⟩ := List.cons.inj whole
      exact absurd free unfree
    | cons c left =>
      obtain ⟨rfl, rfl⟩ := List.cons.inj whole
      exact ⟨left, rfl, rfl⟩

end PatchReview
