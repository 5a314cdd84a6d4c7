import Mathlib.Algebra.GroupWithZero.Nat
import PatchReview.Proofs.Analyzer.Quotes
import PatchReview.Proofs.Analyzer.Tags

/-!
# Links that open a window

A link is judged by its own tag, but for a value of `rel`: that one is read up to the
next quote, which may stand behind the sign that ends the tag. So a link that leaves its
value open is not found any more when a text is added in which the value goes on to the
word it lacks. Only the last link of a text can leave a value open, since behind it there
is no quote, and a link needs quotes.
-/

namespace PatchReview

open Text (Holds Spells)

def ReachesNoopener (text : List Char) : Prop := Holds (upToQuote text) "noopener"

def OpensBlank (attributes : List Char) : Prop :=
  ∃ passed written quote blank quote' rest,
    attributes = passed ++ (written ++ quote :: (blank ++ quote' :: rest)) ∧
      Spells written "target=" ∧ IsQuote quote ∧ Spells blank "_blank" ∧ IsQuote quote'

def OpensRel (text value : List Char) : Prop :=
  ∃ passed written quote, text = passed ++ (written ++ quote :: value) ∧
    Spells written "rel=" ∧ IsQuote quote

/-- A text that begins with a tag, which opens a value of `rel` that no quote ends. -/
def OpensLastRel (text : List Char) : Prop :=
  ∃ passed written quote value, text = passed ++ (written ++ quote :: value) ∧ '>' ∉ passed ∧
    Spells written "rel=" ∧ IsQuote quote ∧ QuoteFree value

instance : Decidable (ReachesNoopener text) := inferInstanceAs (Decidable (Holds _ _))

theorem reachesNoopener_iff :
    ReachesNoopener text ↔
      ∃ value written rest, text = value ++ (written ++ rest) ∧ QuoteFree value ∧
        Spells written "noopener" := by
  rw [ReachesNoopener, Text.holds_iff]
  constructor
  · rintro ⟨value, written, left, whole, spells⟩
    have free : QuoteFree (upToQuote text) := quoteFree_upToQuote text
    rw [whole, quoteFree_append] at free
    obtain ⟨rest, split⟩ := List.takeWhile_prefix (fun c => decide (¬ IsQuote c)) (l := text)
    refine ⟨value, written, left ++ rest, ?_, free.1, spells⟩
    have same : upToQuote text ++ rest = text := split
    rw [← same, whole, List.append_assoc, List.append_assoc]
  · rintro ⟨value, written, rest, rfl, free, spells⟩
    have freeToo : QuoteFree written := .of_spells spells (by decide)
    refine ⟨value, written, upToQuote rest, ?_, spells⟩
    rw [upToQuote_append free, upToQuote_append freeToo]

theorem ReachesNoopener.append (reaches : ReachesNoopener text) (more : List Char) :
    ReachesNoopener (text ++ more) := by
  rw [reachesNoopener_iff] at reaches ⊢
  obtain ⟨value, written, rest, rfl, free, spells⟩ := reaches
  exact ⟨value, written, rest ++ more, by simp, free, spells⟩

theorem reachesNoopener_append (closed : EndsClosed text) (nonempty : text ≠ []) :
    ReachesNoopener (text ++ more) ↔
      ReachesNoopener text ∨ (QuoteFree text ∧ ReachesNoopener more) := by
  obtain ⟨init, rfl⟩ := closed.exists_init nonempty
  have notEmpty : ¬ Holds [] "noopener" := by decide
  have closes : QuoteFree ['>'] := by decide
  by_cases free : QuoteFree init
  · have apart (others : List Char) :
        ReachesNoopener (init ++ '>' :: others) ↔
          Holds init "noopener" ∨ ReachesNoopener others := by
      have whole : upToQuote (init ++ '>' :: others) = init ++ '>' :: upToQuote others := by
        rw [upToQuote_append free]
        exact congrArg (init ++ ·) (upToQuote_append closes others)
      rw [ReachesNoopener, whole]
      exact Text.holds_append_cons (by decide) (by decide)
    have nothing : ¬ ReachesNoopener [] := notEmpty
    simp [apart, nothing, quoteFree_append, free, closes]
  · obtain ⟨quote, rest, whole, isQuote⟩ := exists_quote free
    have same (others : List Char) : upToQuote (init ++ others) = upToQuote init := by
      rw [whole, List.append_assoc, List.cons_append, upToQuote_append (quoteFree_upToQuote init),
        upToQuote_append (quoteFree_upToQuote init), upToQuote_cons isQuote, upToQuote_cons isQuote]
    simp [ReachesNoopener, same, quoteFree_append, free]

theorem OpensBlank.exists_quotes (blank : OpensBlank attributes) :
    ∃ passed quote rest, attributes = passed ++ quote :: rest ∧ IsQuote quote ∧
      ¬ QuoteFree rest := by
  obtain ⟨passed, written, quote, word, quote', rest, rfl, -, isQuote, -, isQuote'⟩ := blank
  refine ⟨passed ++ written, quote, word ++ quote' :: rest, by simp, isQuote, ?_⟩
  intro free
  exact free quote' (by simp) isQuote'

/-- A tag with quotes in it that goes on to a value of `rel` behind which there
are none opens that value itself. -/
theorem OpensBlank.opensRel (blank : OpensBlank attributes) (noEnd : '>' ∉ attributes)
    (spells : Spells written "rel=") (isQuote : IsQuote quote) (early : '>' ∉ passed)
    (inside : '>' ∉ value) (free : QuoteFree (value ++ '>' :: after))
    (whole : passed ++ (written ++ quote :: (value ++ '>' :: after)) =
      skipped ++ (attributes ++ '>' :: rest)) : OpensRel attributes value ∧ rest = after := by
  obtain ⟨lead, first, others, rfl, isFirst, unfree⟩ := blank.exists_quotes
  have follows : (passed ++ written) ++ quote :: (value ++ '>' :: after) =
      (skipped ++ lead) ++ first :: (others ++ '>' :: rest) := by simpa using whole
  have goesOn : ¬ QuoteFree (others ++ '>' :: rest) := by
    rw [quoteFree_append]
    exact fun frees => unfree frees.1
  obtain ⟨between, before, left⟩ := exists_between_of_quoteFree free isFirst goesOn follows
  have unquoted : first ∉ written := fun listed =>
    QuoteFree.of_spells spells (by decide) first listed isFirst
  obtain ⟨right, rfl, rfl⟩ := exists_right_of_append unquoted before.symm
  have noEndRight : '>' ∉ right ++ (written ++ quote :: value) := by
    simp_all [spells.notMem (c := '>') (by decide) (by decide), isQuote.ne_closing]
  have noEndOthers : '>' ∉ others := by simp_all
  have split : others ++ '>' :: rest = (right ++ (written ++ quote :: value)) ++ '>' :: after := by
    simpa using left
  obtain ⟨rfl, rfl⟩ := append_cons_inj_of_notMem_left noEndOthers noEndRight split
  exact ⟨⟨lead ++ first :: right, written, quote, by simp, spells, isQuote⟩, rfl⟩

/-- A link that opens a window, up to the sign that ends its tag. -/
structure Link where
  opening : List Char
  spells : Spells opening "<a"
  attributes : List Char
  noEnd : '>' ∉ attributes
  edge : Pattern.atWordEdge ⟨opening.reverse, attributes ++ ['>']⟩ = true
  blank : OpensBlank attributes

namespace Link

variable {link : Link} {after more value : List Char}

def text (link : Link) : List Char := link.opening ++ (link.attributes ++ ['>'])

/-- No value of `rel` that the link opens reaches the word. -/
def Unopened (link : Link) (after : List Char) : Prop :=
  ∀ value, OpensRel link.attributes value → ¬ ReachesNoopener (value ++ '>' :: after)

theorem noEnd_opening (link : Link) : '>' ∉ link.opening :=
  link.spells.notMem (by decide) (by decide)

theorem eq_of_text_eq {link' : Link} (same : link.text = link'.text) : link = link' := by
  obtain ⟨named, rest⟩ := link.spells.eq_of_append_eq link'.spells rfl same
  have attributes := List.append_cancel_right rest
  cases link
  cases link'
  simp_all

theorem Unopened.of_append (unopened : link.Unopened (after ++ more)) : link.Unopened after := by
  intro value opens reaches
  refine unopened value opens ?_
  simpa using reaches.append more

theorem Unopened.reaches_append_iff (unopened : link.Unopened after) (closed : EndsClosed after)
    (opens : OpensRel link.attributes value) :
    ReachesNoopener (value ++ '>' :: (after ++ more)) ↔
      QuoteFree (value ++ '>' :: after) ∧ ReachesNoopener more := by
  have whole : value ++ '>' :: (after ++ more) = (value ++ '>' :: after) ++ more := by simp
  rw [whole, reachesNoopener_append closed.append (by simp)]
  simp [unopened value opens]

theorem opensLastRel_iff :
    OpensLastRel (link.text ++ after) ↔
      ∃ value, OpensRel link.attributes value ∧ QuoteFree (value ++ '>' :: after) := by
  constructor
  · rintro ⟨passed, rel, quote, value, whole, early, spells, isQuote, unquoted⟩
    have inside : '>' ∉ passed ++ (rel ++ [quote]) := by
      simp [early, spells.notMem (c := '>') (by decide) (by decide), isQuote.ne_closing]
    have split : (link.opening ++ link.attributes) ++ '>' :: after =
        (passed ++ (rel ++ [quote])) ++ value := by
      simpa [text] using whole
    obtain ⟨left, place, rfl⟩ := exists_left_of_append inside split
    refine ⟨left, ?_, unquoted⟩
    -- The name of the tag has no letter that `rel=` begins with, so it is not cut off from it.
    have place : link.opening ++ link.attributes = passed ++ (rel ++ quote :: left) := by
      simpa using place
    rcases List.append_eq_append_iff.mp place with ⟨more, rfl, inTag⟩ | ⟨more, named, inTag⟩
    · exact ⟨more, rel, quote, inTag, spells, isQuote⟩
    · cases more with
      | nil => exact ⟨[], rel, quote, by simpa using inTag.symm, spells, isQuote⟩
      | cons c more =>
        obtain ⟨d, others, rfl, first, -⟩ := List.map_eq_cons_iff.mp spells
        obtain ⟨rfl, -⟩ := List.cons.inj inTag
        have among : Text.fold d ∈ "<a".toList.map Text.fold :=
          link.spells ▸ List.mem_map_of_mem (by simp [named])
        rw [first] at among
        exact absurd among (by decide)
  · rintro ⟨value, ⟨passed, rel, quote, attributes, spells, isQuote⟩, unquoted⟩
    have early : '>' ∉ passed := fun listed =>
      link.noEnd (attributes ▸ List.mem_append_left _ listed)
    refine ⟨link.opening ++ passed, rel, quote, value ++ '>' :: after, ?_, ?_, spells, isQuote,
      unquoted⟩
    · simp [text, attributes]
    · simp [link.noEnd_opening, early]

end Link

namespace Pattern

variable {before taken after more : List Char}

theorem spans_blankTarget :
    (sequence [tagRest, literal "target=", one quoteSign, literal "_blank", one quoteSign]).Spans
        before taken after ↔
      ∃ passed written quote blank quote',
        taken = passed ++ (written ++ quote :: (blank ++ [quote'])) ∧ '>' ∉ passed ∧
          Spells written "target=" ∧ IsQuote quote ∧ Spells blank "_blank" ∧ IsQuote quote' := by
  simp only [spans_sequence_cons, spans_sequence_nil, spans_tagRest, spans_literal, spans_one,
    has_quoteSign]
  constructor
  · rintro ⟨passed, _, rfl, free, written, _, rfl, spells, _, _, rfl, ⟨quote, rfl, isQuote⟩, blank,
      _, rfl, spellsToo, _, _, rfl, ⟨quote', rfl, isQuote'⟩, rfl⟩
    exact ⟨passed, written, quote, blank, quote', rfl, free, spells, isQuote, spellsToo, isQuote'⟩
  · rintro ⟨passed, written, quote, blank, quote', rfl, free, spells, isQuote, spellsToo, isQuote'⟩
    exact ⟨passed, _, rfl, free, written, _, rfl, spells, [quote], _, rfl, ⟨quote, rfl, isQuote⟩,
      blank, [quote'], rfl, spellsToo, [quote'], [], rfl, ⟨quote', rfl, isQuote'⟩, rfl⟩

theorem spans_relNoopener :
    (sequence [tagRest, literal "rel=", one quoteSign, many inQuotes, literal "noopener"]).Spans
        before taken after ↔
      ∃ passed written quote value word,
        taken = passed ++ (written ++ quote :: (value ++ word)) ∧ '>' ∉ passed ∧
          Spells written "rel=" ∧ IsQuote quote ∧ QuoteFree value ∧ Spells word "noopener" := by
  simp only [spans_sequence_cons, spans_sequence_nil, spans_tagRest, spans_literal, spans_one,
    has_quoteSign, spans_inQuotes]
  constructor
  · rintro ⟨passed, _, rfl, free, written, _, rfl, spells, _, _, rfl, ⟨quote, rfl, isQuote⟩, value,
      _, rfl, unquoted, word, _, rfl, spellsToo, rfl⟩
    exact ⟨passed, written, quote, value, word, by simp, free, spells, isQuote, unquoted, spellsToo⟩
  · rintro ⟨passed, written, quote, value, word, rfl, free, spells, isQuote, unquoted, spellsToo⟩
    exact ⟨passed, _, rfl, free, written, _, rfl, spells, [quote], _, rfl, ⟨quote, rfl, isQuote⟩,
      value, word, rfl, unquoted, word, [], by simp, spellsToo, rfl⟩

theorem exists_blankTarget_iff (free : '>' ∉ attributes) :
    (∃ seen rest, attributes ++ '>' :: after = seen ++ rest ∧
      (sequence [tagRest, literal "target=", one quoteSign, literal "_blank", one quoteSign]).Spans
        before seen rest) ↔ OpensBlank attributes := by
  simp only [spans_blankTarget]
  constructor
  · rintro ⟨_, rest, whole, passed, written, quote, blank, quote', rfl, passes, spells, isQuote,
      spellsToo, isQuote'⟩
    have inside : '>' ∉ passed ++ (written ++ quote :: (blank ++ [quote'])) := by
      simp [passes, spells.notMem (c := '>') (by decide) (by decide), isQuote.ne_closing,
        spellsToo.notMem (c := '>') (by decide) (by decide), isQuote'.ne_closing]
    obtain ⟨left, rfl, -⟩ := exists_left_of_append inside whole
    exact ⟨passed, written, quote, blank, quote', left, by simp, spells, isQuote, spellsToo,
      isQuote'⟩
  · rintro ⟨passed, written, quote, blank, quote', left, rfl, spells, isQuote, spellsToo, isQuote'⟩
    refine ⟨_, left ++ '>' :: after, ?_, passed, written, quote, blank, quote', rfl, ?_, spells,
      isQuote, spellsToo, isQuote'⟩
    · simp
    · intro early
      exact free (List.mem_append_left _ early)

/-- The word is seen exactly if a value that the tag opens reaches it, be it behind the tag. -/
theorem exists_relNoopener_iff (free : '>' ∉ attributes) :
    (∃ seen rest, attributes ++ '>' :: after = seen ++ rest ∧
      (sequence [tagRest, literal "rel=", one quoteSign, many inQuotes, literal "noopener"]).Spans
        before seen rest) ↔
      ∃ value, OpensRel attributes value ∧ ReachesNoopener (value ++ '>' :: after) := by
  simp only [spans_relNoopener, reachesNoopener_iff]
  constructor
  · rintro ⟨_, rest, whole, passed, written, quote, value, word, rfl, passes, spells, isQuote,
      unquoted, spellsToo⟩
    have inside : '>' ∉ passed ++ (written ++ [quote]) := by
      simp [passes, spells.notMem (c := '>') (by decide) (by decide), isQuote.ne_closing]
    have split : attributes ++ '>' :: after =
        (passed ++ (written ++ [quote])) ++ (value ++ (word ++ rest)) := by simp [whole]
    obtain ⟨left, rfl, follows⟩ := exists_left_of_append inside split
    exact ⟨left, ⟨passed, written, quote, by simp, spells, isQuote⟩, value, word, rest,
      follows.symm, unquoted, spellsToo⟩
  · rintro ⟨left, ⟨passed, written, quote, rfl, spells, isQuote⟩, value, word, rest, whole,
      unquoted, spellsToo⟩
    refine ⟨_, rest, ?_, passed, written, quote, value, word, rfl, ?_, spells, isQuote, unquoted,
      spellsToo⟩
    · simp [whole]
    · intro early
      exact free (List.mem_append_left _ early)

theorem spans_sequence_looks {sees misses : Pattern} :
    (sequence [wordEdge, ahead sees, notAhead misses, tagRest, literal ">"]).Spans
        before taken after ↔
      ∃ attributes, taken = attributes ++ ['>'] ∧ '>' ∉ attributes ∧
        atWordEdge ⟨before, attributes ++ '>' :: after⟩ = true ∧
        (∃ seen rest, attributes ++ '>' :: after = seen ++ rest ∧ sees.Spans before seen rest) ∧
        ¬ ∃ seen rest,
          attributes ++ '>' :: after = seen ++ rest ∧ misses.Spans before seen rest := by
  simp only [spans_sequence_cons, spans_wordEdge, spans_ahead, spans_notAhead, spans_sequence_nil,
    spans_tagRest, spans_literal, spells_closing]
  constructor
  · rintro ⟨_, _, rfl, ⟨rfl, edge⟩, _, _, rfl, ⟨rfl, seen⟩, _, _, rfl, ⟨rfl, unseen⟩, attributes, _,
      rfl, free, _, _, rfl, rfl, rfl⟩
    exact ⟨attributes, rfl, free, by simpa using edge, by simpa using seen, by simpa using unseen⟩
  · rintro ⟨attributes, rfl, free, edge, seen, unseen⟩
    exact ⟨[], _, rfl, ⟨rfl, by simpa using edge⟩, [], _, rfl, ⟨rfl, by simpa using seen⟩, [], _,
      rfl, ⟨rfl, by simpa using unseen⟩, attributes, ['>'], rfl, free, ['>'], [], rfl, rfl, rfl⟩

theorem spans_link :
    targetBlankWithoutNoopener.pattern.Spans before taken after ↔
      ∃ link : Link, taken = link.text ∧ link.Unopened after := by
  have edge {opening attributes : List Char} (spells : Spells opening "<a") :
      atWordEdge ⟨opening.reverse ++ before, attributes ++ '>' :: after⟩ =
        atWordEdge ⟨opening.reverse, attributes ++ ['>']⟩ := by
    obtain ⟨c, d, rfl⟩ := List.length_eq_two.mp spells.length_eq
    cases attributes <;> rfl
  simp only [targetBlankWithoutNoopener]
  rw [spans_sequence_cons]
  simp only [spans_literal, spans_sequence_looks]
  constructor
  · rintro ⟨opening, _, rfl, spells, attributes, rfl, noEnd, atEdge, blank, unopened⟩
    rw [exists_blankTarget_iff noEnd] at blank
    rw [exists_relNoopener_iff noEnd] at unopened
    refine ⟨⟨opening, spells, attributes, noEnd, (edge spells).symm.trans atEdge, blank⟩, rfl, ?_⟩
    intro value opens reaches
    exact unopened ⟨value, opens, reaches⟩
  · rintro ⟨⟨opening, spells, attributes, noEnd, atEdge, blank⟩, rfl, unopened⟩
    refine ⟨opening, _, rfl, spells, attributes, rfl, noEnd, (edge spells).trans atEdge, ?_, ?_⟩
    · exact (exists_blankTarget_iff noEnd).mpr blank
    · rw [exists_relNoopener_iff noEnd]
      rintro ⟨value, opens, reaches⟩
      exact unopened value opens reaches

theorem isTag_link : targetBlankWithoutNoopener.pattern.IsTag where
  closes spans := by
    obtain ⟨link, rfl, -⟩ := spans_link.mp spans
    exact ⟨link.opening ++ link.attributes, by simp [Link.text],
      by simp [link.noEnd, link.noEnd_opening]⟩
  free other spans := spans_link.mpr (spans_link.mp spans)

theorem spans_link_of_append
    (spans : targetBlankWithoutNoopener.pattern.Spans before taken (after ++ more)) :
    targetBlankWithoutNoopener.pattern.Spans before taken after := by
  obtain ⟨link, rfl, unopened⟩ := spans_link.mp spans
  exact spans_link.mpr ⟨link, rfl, unopened.of_append⟩

/-- A link stays a link when a text is added, unless it leaves a value open that the text
goes on with to the word. -/
theorem spans_link_append_iff
    (spans : targetBlankWithoutNoopener.pattern.Spans before taken after)
    (closed : EndsClosed after) :
    targetBlankWithoutNoopener.pattern.Spans before taken (after ++ more) ↔
      ¬ (OpensLastRel (taken ++ after) ∧ ReachesNoopener more) := by
  obtain ⟨link, rfl, unopened⟩ := spans_link.mp spans
  rw [link.opensLastRel_iff]
  constructor
  · rintro stays ⟨⟨value, opens, unquoted⟩, reaches⟩
    obtain ⟨link', same, unopened'⟩ := spans_link.mp stays
    obtain rfl := Link.eq_of_text_eq same
    exact unopened' value opens ((unopened.reaches_append_iff closed opens).mpr ⟨unquoted, reaches⟩)
  · intro unreached
    refine spans_link.mpr ⟨link, rfl, ?_⟩
    intro value opens reaches
    obtain ⟨unquoted, reachesMore⟩ := (unopened.reaches_append_iff closed opens).mp reaches
    exact unreached ⟨⟨value, opens, unquoted⟩, reachesMore⟩

/-- Behind a link that leaves a value open no other one begins, and with a text
that goes on to the word none begins from there on. -/
theorem fades_link (spans : targetBlankWithoutNoopener.pattern.Spans before taken after)
    (closed : EndsClosed after) (leaves : OpensLastRel (taken ++ after))
    (reaches : ReachesNoopener more) :
    targetBlankWithoutNoopener.pattern.Fades more before taken after := by
  obtain ⟨link, rfl, -⟩ := spans_link.mp spans
  obtain ⟨value, ⟨passed, rel, quote, attributes, spellsRel, isQuote⟩, unquoted⟩ :=
    link.opensLastRel_iff.mp leaves
  have noEnd : '>' ∉ passed ++ (rel ++ quote :: value) := attributes ▸ link.noEnd
  have opened : link.text ++ after =
      (link.opening ++ passed) ++ (rel ++ quote :: (value ++ '>' :: after)) := by
    simp [Link.text, attributes]
  constructor
  · intro skipped c rest whole
    refine ends_eq_nil.mpr ?_
    intro taken' after' whole' spans'
    have closedRest : EndsClosed (c :: rest) := by
      have closedWhole : EndsClosed ((link.opening ++ link.attributes) ++ '>' :: after) :=
        closed.append
      have closedRight : EndsClosed (skipped ++ c :: rest) := by
        rw [← whole]
        simpa [Link.text] using closedWhole
      exact closedRight.of_append
    obtain ⟨left, split, rfl⟩ := isTag_link.exists_within spans' closedRest (by simp) whole'
    obtain ⟨link', rfl, unopened'⟩ := spans_link.mp spans'
    have early : '>' ∉ link.opening ++ passed := by simp_all [link.noEnd_opening]
    have inside : '>' ∉ value := by simp_all
    have follows : (link.opening ++ passed) ++ (rel ++ quote :: (value ++ '>' :: after)) =
        (skipped ++ link'.opening) ++ (link'.attributes ++ '>' :: left) := by
      rw [← opened, whole, split]
      simp [Link.text]
    obtain ⟨opens, rfl⟩ :=
      link'.blank.opensRel link'.noEnd spellsRel isQuote early inside unquoted follows
    refine unopened' value opens ?_
    have goesOn : value ++ '>' :: (left ++ more) = (value ++ '>' :: left) ++ more := by simp
    rw [goesOn, reachesNoopener_append closed.append (by simp)]
    exact .inr ⟨unquoted, reaches⟩
  · rintro skipped rest rfl
    refine ends_eq_nil.mpr ?_
    rintro taken' after' rfl spans'
    obtain ⟨link', rfl, -⟩ := spans_link.mp spans'
    obtain ⟨lead, quote', others, attributes', isQuote', -⟩ := link'.blank.exists_quotes
    exact unquoted quote' (by simp [Link.text, attributes']) isQuote'

end Pattern

/-- A link that is found in the text leaves a value of `rel` open. -/
def LeavesRelOpen (text : List Char) : Prop :=
  ∃ m ∈ targetBlankWithoutNoopener.pattern.findAll text, OpensLastRel m.start.after

/-- Of pieces that end in closing signs, none leaves a value open that what follows goes on with
to the word. -/
def StandApart : List (List Char) → List Char → Prop
  | [], _ => True
  | piece :: rest, tail =>
    ¬ (LeavesRelOpen (piece ++ ['>']) ∧ ReachesNoopener (rest.flatMap (· ++ ['>']) ++ tail)) ∧
      StandApart rest tail

theorem found_append_cases (closed : EndsClosed text) (more : List Char) :
    (¬ (LeavesRelOpen text ∧ ReachesNoopener more) ∧
      targetBlankWithoutNoopener.found (text ++ more) =
        targetBlankWithoutNoopener.found text ++ targetBlankWithoutNoopener.found more) ∨
    (LeavesRelOpen text ∧ ReachesNoopener more ∧
      ∃ links link, targetBlankWithoutNoopener.found text = links ++ [link] ∧
        targetBlankWithoutNoopener.found (text ++ more) =
          links ++ targetBlankWithoutNoopener.found more) := by
  have lasts (before taken after : List Char) (closed : EndsClosed after)
      (spans : targetBlankWithoutNoopener.pattern.Spans before taken after) :
      targetBlankWithoutNoopener.pattern.Spans before taken (after ++ more) ∨
        targetBlankWithoutNoopener.pattern.Fades more before taken after := by
    by_cases undone : OpensLastRel (taken ++ after) ∧ ReachesNoopener more
    · exact .inr (Pattern.fades_link spans closed undone.1 undone.2)
    · exact .inl ((Pattern.spans_link_append_iff spans closed).mpr undone)
  have stays_iff {m : Match} (listed : m ∈ targetBlankWithoutNoopener.pattern.findAll text) :
      targetBlankWithoutNoopener.pattern.ends (m.start.extend more) ≠ [] ↔
        ¬ (OpensLastRel m.start.after ∧ ReachesNoopener more) := by
    obtain ⟨rest, place, closedRest, spans⟩ := Pattern.isTag_link.finds_closed closed listed
    rw [Cursor.extend, place, Pattern.isTag_link.ends_extend_ne_nil spans,
      Pattern.spans_link_append_iff spans closedRest]
  rcases Pattern.isTag_link.texts_append_cases (fun _ _ _ => Pattern.spans_link_of_append)
    lasts closed with
    ⟨whole, stay⟩ | ⟨early, m, split, undone, whole⟩
  · refine .inl ⟨?_, whole⟩
    rintro ⟨⟨m, listed, leaves⟩, reaches⟩
    exact (stays_iff listed).mp (stay m listed) ⟨leaves, reaches⟩
  · have listed : m ∈ targetBlankWithoutNoopener.pattern.findAll text := by simp [split]
    have both : OpensLastRel m.start.after ∧ ReachesNoopener more := by
      by_contra apart
      exact (stays_iff listed).mpr apart undone
    have whole' : targetBlankWithoutNoopener.found (text ++ more) =
        early.map (·.text) ++ targetBlankWithoutNoopener.found more := whole
    refine .inr ⟨⟨m, listed, both.1⟩, both.2, early.map (·.text), m.text, ?_, whole'⟩
    rw [PatternRule.found, split, List.map_append]
    rfl

theorem found_pieces (apart : StandApart pieces tail) :
    targetBlankWithoutNoopener.found (pieces.flatMap (· ++ ['>']) ++ tail) =
      pieces.flatMap (fun piece => targetBlankWithoutNoopener.found (piece ++ ['>'])) ++
        targetBlankWithoutNoopener.found tail := by
  induction pieces with
  | nil => rfl
  | cons piece rest ih =>
    obtain ⟨first, others⟩ := apart
    rcases found_append_cases (endsClosed_append_singleton piece)
      (rest.flatMap (· ++ ['>']) ++ tail) with ⟨-, whole⟩ | ⟨leaves, reaches, -⟩
    · rw [ih others] at whole
      simpa using whole
    · exact absurd ⟨leaves, reaches⟩ first

/-- Links are counted tag by tag: a text that ends in a closing sign keeps its links when
another one is added, which adds its own. Only where a link leaves a value of `rel` open, and
what is added goes on to the word before the next quote, is one link lost, the last one. -/
theorem found_targetBlank_append :
    (∀ text more, ¬ (LeavesRelOpen (text ++ ['>']) ∧ ReachesNoopener more) →
      targetBlankWithoutNoopener.found (text ++ '>' :: more) =
        targetBlankWithoutNoopener.found (text ++ ['>']) ++
          targetBlankWithoutNoopener.found more) ∧
    (∀ text more, LeavesRelOpen (text ++ ['>']) → ReachesNoopener more →
      ∃ links link, targetBlankWithoutNoopener.found (text ++ ['>']) = links ++ [link] ∧
        targetBlankWithoutNoopener.found (text ++ '>' :: more) =
          links ++ targetBlankWithoutNoopener.found more) ∧
    ∀ (file : ChangedFile) (category : Category) pieces tail,
      file.contents = some (String.ofList (pieces.flatMap (· ++ ['>']) ++ tail)) →
      StandApart pieces tail →
      let count := (pieces.map fun piece =>
          (targetBlankWithoutNoopener.found (piece ++ ['>'])).length).sum +
        (targetBlankWithoutNoopener.found tail).length
      (Rule.pattern targetBlankWithoutNoopener).issue? category file =
        .ok (if count = 0 then none else some ⟨category, .medium, file.filename, none,
          s!"Found {count} link(s) with target=\"_blank\" without rel=\"noopener\"",
          some "Add rel=\"noopener noreferrer\" to prevent potential security vulnerabilities"⟩) := by
  refine ⟨?_, ?_, ?_⟩
  · intro text more apart
    rw [List.append_cons text '>' more]
    rcases found_append_cases (endsClosed_append_singleton text) more with
      ⟨-, added⟩ | ⟨leaves, reaches, -⟩
    · exact added
    · exact absurd ⟨leaves, reaches⟩ apart
  · intro text more leaves reaches
    rw [List.append_cons text '>' more]
    rcases found_append_cases (endsClosed_append_singleton text) more with ⟨apart, -⟩ | ⟨-, -, lost⟩
    · exact absurd ⟨leaves, reaches⟩ apart
    · exact lost
  · intro file category pieces tail contents apart count
    have counts : targetBlankWithoutNoopener.Counts "Found "
        " link(s) with target=\"_blank\" without rel=\"noopener\"" := ⟨by decide, rfl, rfl⟩
    refine counts.issue?_eq contents ?_ category
    rw [String.toList_ofList, found_pieces apart, List.length_append, List.length_flatMap]

/-- A link that leaves its value open, with a text that does not go on to the word and with one
that does, and two links in a file. -/
theorem found_targetBlank_append_openValue :
    let opened := "<a target=\"_blank\" rel=\"".toList
    let rest := " b".toList
    let carried := " noopener".toList
    let pieces := [opened, " b</a".toList, "<A\nTARGET='_blank'".toList]
    let file : ChangedFile :=
      ⟨"page.html", .added, none, some (String.ofList (pieces.flatMap (· ++ ['>']) ++ rest))⟩
    ¬ (LeavesRelOpen (opened ++ ['>']) ∧ ReachesNoopener rest) ∧
      targetBlankWithoutNoopener.found (opened ++ '>' :: rest) =
        targetBlankWithoutNoopener.found (opened ++ ['>']) ++
          targetBlankWithoutNoopener.found rest ∧
      LeavesRelOpen (opened ++ ['>']) ∧ ReachesNoopener carried ∧
      (∃ links link, targetBlankWithoutNoopener.found (opened ++ ['>']) = links ++ [link] ∧
        targetBlankWithoutNoopener.found (opened ++ '>' :: carried) =
          links ++ targetBlankWithoutNoopener.found carried) ∧
      file.contents = some (String.ofList (pieces.flatMap (· ++ ['>']) ++ rest)) ∧
      StandApart pieces rest ∧
      (Rule.pattern targetBlankWithoutNoopener).issue? .security file =
        .ok (some ⟨.security, .medium, "page.html", none,
          "Found 2 link(s) with target=\"_blank\" without rel=\"noopener\"",
          some "Add rel=\"noopener noreferrer\" to prevent potential security vulnerabilities"⟩) := by
  intro opened rest carried pieces file
  obtain ⟨added, lost, counted⟩ := found_targetBlank_append
  have unreached : ¬ ReachesNoopener rest := by decide +kernel
  have reaches : ReachesNoopener carried := by decide +kernel
  have leaves : LeavesRelOpen (opened ++ ['>']) := by
    refine ⟨⟨⟨[], opened ++ ['>']⟩, opened ++ ['>']⟩, by decide +kernel, ?_⟩
    exact ⟨"<a target=\"_blank\" ".toList, "rel=".toList, '"', ['>'], by decide, by decide,
      by decide, by decide, by decide⟩
  have contents : file.contents = some (String.ofList (pieces.flatMap (· ++ ['>']) ++ rest)) := rfl
  have apart : StandApart pieces rest := by
    refine ⟨?_, ?_, ?_, trivial⟩ <;> refine fun both => absurd both.2 ?_ <;> decide +kernel
  refine ⟨fun both => unreached both.2, added opened rest fun both => unreached both.2, leaves,
    reaches, lost opened carried leaves reaches, contents, apart, ?_⟩
  have two : (pieces.map fun piece =>
      (targetBlankWithoutNoopener.found (piece ++ ['>'])).length).sum +
        (targetBlankWithoutNoopener.found rest).length = 2 := by decide +kernel
  rw [counted file .security pieces rest contents apart, two]
  rfl

/-- A link that would be found if its tag ended at the first closing sign. That one stands in the
value of `rel`, which goes on to the word. -/
theorem found_targetBlank_append_ne :
    let text := "<a target=\"_blank\" rel=\"external ".toList
    let more := " noopener\">docs</a>".toList
    targetBlankWithoutNoopener.found (text ++ '>' :: more) ≠
      targetBlankWithoutNoopener.found (text ++ ['>']) ++ targetBlankWithoutNoopener.found more := by
  decide +kernel

end PatchReview
