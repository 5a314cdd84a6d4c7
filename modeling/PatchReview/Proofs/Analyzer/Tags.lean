import PatchReview.Proofs.Analyzer.Direct
import PatchReview.Proofs.Pattern.Tag

/-!
# Tags that lack an attribute

Two rules look for tags of a kind that do not hold a word. Whether such a tag is found is
a matter of the tag alone (`Pattern.spans_tagWithout`): what stands before it, and what
comes after its end, has no say. So a text is scanned tag by tag, the gaps between tags
give nothing, and the rules count the tags without the word (`Pattern.texts_page`).
-/

namespace PatchReview

open Text (Holds Spells)

namespace Pattern

variable {before taken after : List Char}

theorem spans_sequence_notAhead {looks parts : List Pattern} :
    (sequence (looks.map notAhead ++ parts)).Spans before taken after ↔
      (∀ p ∈ looks, ∀ seen rest, taken ++ after = seen ++ rest → ¬ p.Spans before seen rest) ∧
        (sequence parts).Spans before taken after := by
  induction looks with
  | nil => simp
  | cons look looks ih =>
    rw [List.map_cons, List.cons_append, spans_sequence_cons, List.forall_mem_cons]
    constructor
    · rintro ⟨one, two, rfl, first, others⟩
      obtain ⟨rfl, unseen⟩ := spans_notAhead.mp first
      obtain ⟨unseenToo, rest⟩ := ih.mp (by simpa using others)
      exact ⟨⟨unseen, unseenToo⟩, rest⟩
    · rintro ⟨⟨unseen, unseenToo⟩, rest⟩
      have others := ih.mpr ⟨unseenToo, rest⟩
      exact ⟨[], taken, rfl, spans_notAhead.mpr ⟨rfl, unseen⟩, by simpa using others⟩

@[simp] theorem spans_tagRest : tagRest.Spans before taken after ↔ '>' ∉ taken := spans_many_noneOf

theorem spells_closing : Spells taken ">" ↔ taken = ['>'] := by
  constructor
  · intro spells
    obtain ⟨c, rfl, same⟩ := List.map_eq_singleton_iff.mp spells
    have : c = '>' := (Text.fold_eq_iff (by decide)).mp same
    rw [this]
  · rintro rfl
    rfl

theorem spans_tagEnd :
    (sequence [tagRest, literal ">"]).Spans before taken after ↔
      ∃ inner, taken = inner ++ ['>'] ∧ '>' ∉ inner := by
  simp [spells_closing]

theorem exists_seen_iff {inner : List Char} {word : String} (free : '>' ∉ inner)
    (unclosed : '>' ∉ word.toList) :
    (∃ seen rest, (inner ++ ['>']) ++ after = seen ++ rest ∧
      (seq tagRest (literal word)).Spans before seen rest) ↔ Holds inner word := by
  rw [Text.holds_iff, List.append_assoc, List.singleton_append]
  constructor
  · rintro ⟨seen, rest, whole, spans⟩
    simp only [spans_seq, spans_tagRest, spans_literal] at spans
    obtain ⟨skipped, spelled, rfl, passes, spells⟩ := spans
    have inside : '>' ∉ skipped ++ spelled := by
      simp [passes, spells.notMem (by decide) unclosed]
    obtain ⟨left, rfl, -⟩ := exists_left_of_append inside whole
    exact ⟨skipped, spelled, left, List.append_assoc .., spells⟩
  · rintro ⟨skipped, spelled, left, rfl, spells⟩
    refine ⟨skipped ++ spelled, left ++ '>' :: after, by simp, ?_⟩
    simp only [spans_seq, spans_tagRest, spans_literal]
    refine ⟨skipped, spelled, rfl, ?_, spells⟩
    intro early
    exact free (List.mem_append_left _ early)

theorem spans_tagWithout {opening : String} {absent : List String}
    (unclosed : ∀ word ∈ absent, '>' ∉ word.toList) :
    (tagWithout opening absent).Spans before taken after ↔
      ∃ written inner, taken = written ++ (inner ++ ['>']) ∧ Spells written opening ∧
        '>' ∉ inner ∧ ∀ word ∈ absent, ¬ Holds inner word := by
  have looks : absent.map (fun word => notAhead (seq tagRest (literal word))) =
      (absent.map fun word => seq tagRest (literal word)).map notAhead := by simp
  rw [tagWithout, looks, List.append_assoc, List.singleton_append, spans_sequence_cons]
  simp only [spans_literal, spans_sequence_notAhead, spans_tagEnd, List.forall_mem_map]
  constructor
  · rintro ⟨written, rest, rfl, spells, unseen, inner, rfl, free⟩
    refine ⟨written, inner, rfl, spells, free, fun word listed holds => ?_⟩
    obtain ⟨seen, rest, whole, spans⟩ := (exists_seen_iff free (unclosed word listed)).mpr holds
    exact unseen word listed seen rest whole spans
  · rintro ⟨written, inner, rfl, spells, free, lacks⟩
    refine ⟨written, _, rfl, spells, fun word listed seen rest whole spans => ?_, inner, rfl, free⟩
    have holds := (exists_seen_iff free (unclosed word listed)).mp ⟨seen, rest, whole, spans⟩
    exact lacks word listed holds

end Pattern

/-- A text that begins tags: a sign, and a name without signs of tags. -/
structure OpensTags (opening : String) : Prop where
  sign : opening.toList.head? = some '<'
  single : '<' ∉ opening.toList.tail
  unclosed : '>' ∉ opening.toList

/-- A tag that begins in some way, with no sign of tags before its end. -/
structure Tag (opening : String) where
  written : List Char
  opens : Spells written opening
  attributes : List Char
  noSign : '<' ∉ attributes
  noEnd : '>' ∉ attributes

def Tag.text (tag : Tag opening) : List Char := tag.written ++ (tag.attributes ++ ['>'])

theorem Tag.exists_name (tag : Tag opening) (opens : OpensTags opening) :
    ∃ name, tag.text = '<' :: name ∧ '<' ∉ name := by
  have first := tag.opens.head?_eq (by decide) opens.sign
  have single := tag.opens.notMem_tail (c := '<') (by decide) opens.single
  obtain ⟨name, written⟩ := List.head?_eq_some_iff.mp first
  refine ⟨name ++ (tag.attributes ++ ['>']), by simp [text, written], ?_⟩
  rw [written, List.tail_cons] at single
  simp [single, tag.noSign]

/-- A tag with the text up to the next one, in which none of its kind begins. -/
structure TagSection (opening : String) where
  tag : Tag opening
  gap : List Char
  isGap : ¬ Holds gap opening

def TagSection.text (part : TagSection opening) : List Char := part.tag.text ++ part.gap

structure TagPage (opening : String) where
  lead : List Char
  isGap : ¬ Holds lead opening
  sections : List (TagSection opening)

namespace TagPage

def text (page : TagPage opening) : List Char := page.lead ++ page.sections.flatMap TagSection.text

/-- The tags that do not hold a word, in any case. -/
def without (page : TagPage opening) (word : String) : List (Tag opening) :=
  (page.sections.map TagSection.tag).filter fun tag => ¬ Holds tag.attributes word

end TagPage

namespace Pattern

section
variable {opening : String} {absent : List String} (opens : OpensTags opening)
  (unclosed : ∀ word ∈ absent, '>' ∉ word.toList)

include opens unclosed

theorem isTag_tagWithout : (tagWithout opening absent).IsTag where
  closes spans := by
    obtain ⟨written, inner, rfl, spells, free, -⟩ := (spans_tagWithout unclosed).mp spans
    refine ⟨written ++ inner, by simp, ?_⟩
    simp [free, spells.notMem (by decide) opens.unclosed]
  free other spans := (spans_tagWithout unclosed).mpr ((spans_tagWithout unclosed).mp spans)

theorem texts_tagWithout_append (closed : EndsClosed text) (more : List Char) :
    (tagWithout opening absent).texts (text ++ more) =
      (tagWithout opening absent).texts text ++ (tagWithout opening absent).texts more := by
  refine (isTag_tagWithout opens unclosed).texts_append ?_ closed
  intro before taken after others spans
  exact (spans_tagWithout unclosed).mpr ((spans_tagWithout unclosed).mp spans)

theorem ends_gap {gap : List Char} (isGap : ¬ Holds gap opening)
    (fromSign : ∀ c ∈ after.head?, c = '<') (inside : gap = passed ++ c :: rest) :
    (tagWithout opening absent).ends ⟨before, c :: rest ++ after⟩ = [] := by
  refine ends_eq_nil.mpr ?_
  rintro _ later whole spans
  obtain ⟨written, inner, rfl, spells, -⟩ := (spans_tagWithout unclosed).mp spans
  rw [List.append_assoc] at whole
  rcases List.append_eq_append_iff.mp whole with ⟨more, rfl, follows⟩ | ⟨left, within, -⟩
  · -- The opening would reach into the tag that follows, whose sign it does not hold twice.
    cases more with
    | nil =>
      refine isGap (Text.holds_iff.mpr ⟨passed, c :: rest, [], by simp [inside], ?_⟩)
      simpa using spells
    | cons d more =>
      obtain rfl : d = '<' := fromSign d (by simp [follows])
      exact spells.notMem_tail (by decide) opens.single (by simp)
  · exact isGap (Text.holds_iff.mpr ⟨passed, written, left, by rw [inside, within], spells⟩)

theorem texts_gap {gap : List Char} (isGap : ¬ Holds gap opening) :
    (tagWithout opening absent).texts gap = [] := by
  have run : (tagWithout opening absent).Scans [] (gap ++ []) [] :=
    .passes (fun passed c rest inside => ends_gap opens unclosed isGap nofun inside) (.done _)
  rw [List.append_nil] at run
  exact run.texts_eq (isTag_tagWithout opens unclosed).takesSome

/-- In a tag that holds one of the words nothing matches: no other tag begins in it. -/
theorem ends_tag_of_holds (tag : Tag opening)
    (holds : ¬ ∀ word ∈ absent, ¬ Holds tag.attributes word)
    (inside : tag.text = passed ++ c :: rest) :
    (tagWithout opening absent).ends ⟨before, c :: rest ++ []⟩ = [] := by
  refine ends_eq_nil.mpr ?_
  rintro _ later follows spans
  obtain ⟨written, inner, rfl, spells, free, lacks⟩ := (spans_tagWithout unclosed).mp spans
  cases passed with
  | nil =>
    have same : tag.written ++ (tag.attributes ++ ['>']) = written ++ (inner ++ '>' :: later) := by
      simpa [inside, Tag.text] using inside.trans (by simpa using follows)
    obtain ⟨rfl, rest⟩ := tag.opens.eq_of_append_eq spells rfl same
    obtain ⟨rfl, -⟩ := append_cons_inj_of_notMem_left tag.noEnd free rest
    exact holds lacks
  | cons d passed =>
    -- The sign that the opening begins with would be a second one in the tag.
    have first := spells.head?_eq (by decide) opens.sign
    obtain ⟨others, begins⟩ := List.head?_eq_some_iff.mp first
    obtain rfl : c = '<' := by
      simp only [begins, List.cons_append, List.cons.injEq] at follows
      exact follows.1
    obtain ⟨name, whole, single⟩ := tag.exists_name opens
    rw [whole] at inside
    obtain ⟨-, rfl⟩ := List.cons.inj inside
    simp at single

/-- A tag is found if it holds none of the words, and nothing else of it is. -/
theorem texts_tag {gap : List Char} (isGap : ¬ Holds gap opening) (tag : Tag opening) :
    (tagWithout opening absent).texts (gap ++ tag.text) =
      if ∀ word ∈ absent, ¬ Holds tag.attributes word then [tag.text] else [] := by
  have isTag := isTag_tagWithout opens unclosed
  have passes {found : List Match}
      (run : (tagWithout opening absent).Scans gap.reverse tag.text found) :
      (tagWithout opening absent).Scans [] (gap ++ tag.text) found := by
    obtain ⟨name, whole, -⟩ := tag.exists_name opens
    refine .passes (fun passed c rest inside => ?_) (by simpa using run)
    exact ends_gap opens unclosed isGap (by simp [whole]) inside
  split
  · next lacks =>
    have spans : (tagWithout opening absent).Spans gap.reverse tag.text [] :=
      (spans_tagWithout unclosed).mpr
        ⟨tag.written, tag.attributes, rfl, tag.opens, tag.noEnd, lacks⟩
    have run := Scans.take (isTag.takesSome.ne_nil spans) (isTag.finds spans) (.done _)
    rw [List.append_nil] at run
    exact (passes run).texts_eq isTag.takesSome
  · next holds =>
    have run : (tagWithout opening absent).Scans gap.reverse (tag.text ++ []) [] :=
      .passes (fun _ _ _ inside => ends_tag_of_holds opens unclosed tag holds inside) (.done _)
    rw [List.append_nil] at run
    exact (passes run).texts_eq isTag.takesSome

/-- Of the tags of a page those are found that hold none of the words. -/
theorem texts_page (page : TagPage opening) :
    (tagWithout opening absent).texts page.text =
      ((page.sections.map TagSection.tag).filter fun tag =>
        ∀ word ∈ absent, ¬ Holds tag.attributes word).map Tag.text := by
  obtain ⟨lead, isGap, sections⟩ := page
  induction sections generalizing lead with
  | nil => simpa [TagPage.text] using texts_gap opens unclosed isGap
  | cons part rest ih =>
    have split : TagPage.text ⟨lead, isGap, part :: rest⟩ =
        (lead ++ part.tag.text) ++ TagPage.text ⟨part.gap, part.isGap, rest⟩ := by
      simp [TagPage.text, TagSection.text]
    have closed : EndsClosed (lead ++ part.tag.text) := by
      simp only [Tag.text, ← List.append_assoc]
      exact endsClosed_append_singleton _
    rw [split, texts_tagWithout_append opens unclosed closed, texts_tag opens unclosed isGap, ih,
      List.map_cons, List.filter_cons]
    by_cases lacks : ∀ word ∈ absent, ¬ Holds part.tag.attributes word
    · simp only [if_pos lacks, decide_eq_true lacks, if_true, List.map_cons, List.singleton_append]
    · simp only [if_neg lacks, decide_eq_false lacks, Bool.false_eq_true, if_false,
        List.nil_append]

end

end Pattern

theorem opensTags_img : OpensTags "<img" := ⟨by decide, by decide, by decide⟩

theorem opensTags_input : OpensTags "<input" := ⟨by decide, by decide, by decide⟩

/-- What holds the longer name of a label holds the shorter one, so to look for it changes
nothing. -/
theorem found_inputMissingLabel (text : List Char) :
    inputMissingLabel.found text = (tagWithout "<input" ["aria-label"]).texts text := by
  have unclosed : ∀ word ∈ ["aria-label", "aria-labelledby"], '>' ∉ word.toList := by decide
  have unclosedToo : ∀ word ∈ ["aria-label"], '>' ∉ word.toList := by decide
  refine (Pattern.isTag_tagWithout opensTags_input unclosed).texts_congr
    (Pattern.isTag_tagWithout opensTags_input unclosedToo) (fun before taken after => ?_) text
  rw [Pattern.spans_tagWithout unclosed, Pattern.spans_tagWithout unclosedToo]
  have shorter {inner : List Char} (lacks : ¬ Holds inner "aria-label") :
      ¬ Holds inner "aria-labelledby" := by
    intro holds
    exact lacks (holds.of_word (by decide))
  simp only [List.forall_mem_cons, List.not_mem_nil, false_implies, implies_true, and_true]
  constructor
  · rintro ⟨written, inner, whole, spells, free, lacks, -⟩
    exact ⟨written, inner, whole, spells, free, lacks⟩
  · rintro ⟨written, inner, whole, spells, free, lacks⟩
    exact ⟨written, inner, whole, spells, free, lacks, shorter lacks⟩

/-- A rule that shows the number of tags without an attribute. -/
structure CountsTags (rule : PatternRule Severity) (opening word before after : String) : Prop
    extends rule.Counts before after where
  found : ∀ text, rule.found text = (tagWithout opening [word]).texts text
  opens : OpensTags opening
  unclosed : '>' ∉ word.toList

theorem countsTags_imgMissingAlt :
    CountsTags imgMissingAlt "<img" "alt=" "Found " " img tag(s) without alt attribute" where
  found _ := rfl
  opens := opensTags_img
  unclosed := by decide
  toCounts := ⟨by decide, rfl, rfl⟩

theorem countsTags_inputMissingLabel :
    CountsTags inputMissingLabel "<input" "aria-label" "Found "
      " input(s) without proper labeling" where
  found := found_inputMissingLabel
  opens := opensTags_input
  unclosed := by decide
  toCounts := ⟨by decide, rfl, rfl⟩

namespace CountsTags

variable {rule : PatternRule Severity} {opening word before after : String}

theorem found_append (counts : CountsTags rule opening word before after) (text more : List Char) :
    rule.found (text ++ '>' :: more) = rule.found (text ++ ['>']) ++ rule.found more := by
  have whole : text ++ '>' :: more = (text ++ ['>']) ++ more := by simp
  rw [whole, counts.found, counts.found, counts.found]
  exact Pattern.texts_tagWithout_append counts.opens (by simpa using counts.unclosed)
    (endsClosed_append_singleton text) more

theorem found_page (counts : CountsTags rule opening word before after) (page : TagPage opening) :
    rule.found page.text = (page.without word).map Tag.text := by
  rw [counts.found, Pattern.texts_page counts.opens (by simpa using counts.unclosed)]
  simp [TagPage.without]

theorem issue?_page (counts : CountsTags rule opening word before after) {file : ChangedFile}
    (page : TagPage opening) (contents : file.contents = some (String.ofList page.text))
    (category : Category) :
    ((∀ part ∈ page.sections, Holds part.tag.attributes word) →
      (Rule.pattern rule).issue? category file = .ok none) ∧
    (¬ (∀ part ∈ page.sections, Holds part.tag.attributes word) →
      (Rule.pattern rule).issue? category file =
        .ok (some ⟨category, rule.severity, file.filename, none,
          before ++ toString (page.without word).length ++ after, rule.suggestion⟩)) := by
  have counted :
      (rule.found (String.ofList page.text).toList).length = (page.without word).length := by
    rw [String.toList_ofList, counts.found_page, List.length_map]
  have none_iff : (page.without word).length = 0 ↔
      ∀ part ∈ page.sections, Holds part.tag.attributes word := by
    simp [TagPage.without]
  rw [counts.toCounts.issue?_eq contents counted]
  constructor
  · intro all
    rw [if_pos (none_iff.mpr all)]
  · intro lacking
    rw [if_neg (mt none_iff.mp lacking)]

end CountsTags

/-- Of the images of a page those without alternative text are counted, and of the inputs
those without a label, whatever the case of letters. Each tag is judged by itself: what is found
in a text that ends in a closing sign stays as it is when more follows. -/
theorem issue?_of_tagPage (file : ChangedFile) (category : Category) :
    (∀ page : TagPage "<img", file.contents = some (String.ofList page.text) →
      ((∀ part ∈ page.sections, Holds part.tag.attributes "alt=") →
        (Rule.pattern imgMissingAlt).issue? category file = .ok none) ∧
      (¬ (∀ part ∈ page.sections, Holds part.tag.attributes "alt=") →
        let count := (page.without "alt=").length
        (Rule.pattern imgMissingAlt).issue? category file =
          .ok (some ⟨category, .medium, file.filename, none,
            s!"Found {count} img tag(s) without alt attribute",
            some "Add descriptive alt text to all images for screen readers"⟩))) ∧
    (∀ page : TagPage "<input", file.contents = some (String.ofList page.text) →
      ((∀ part ∈ page.sections, Holds part.tag.attributes "aria-label") →
        (Rule.pattern inputMissingLabel).issue? category file = .ok none) ∧
      (¬ (∀ part ∈ page.sections, Holds part.tag.attributes "aria-label") →
        let count := (page.without "aria-label").length
        (Rule.pattern inputMissingLabel).issue? category file =
          .ok (some ⟨category, .medium, file.filename, none,
            s!"Found {count} input(s) without proper labeling",
            some "Ensure all form inputs have associated labels or aria-label attributes"⟩))) ∧
    (∀ text, inputMissingLabel.found text = (tagWithout "<input" ["aria-label"]).texts text) ∧
    ∀ text more,
      imgMissingAlt.found (text ++ '>' :: more) =
        imgMissingAlt.found (text ++ ['>']) ++ imgMissingAlt.found more ∧
      inputMissingLabel.found (text ++ '>' :: more) =
        inputMissingLabel.found (text ++ ['>']) ++ inputMissingLabel.found more := by
  refine ⟨?_, ?_, found_inputMissingLabel, fun text more => ⟨?_, ?_⟩⟩
  · intro page contents
    exact countsTags_imgMissingAlt.issue?_page page contents category
  · intro page contents
    exact countsTags_inputMissingLabel.issue?_page page contents category
  · exact countsTags_imgMissingAlt.found_append text more
  · exact countsTags_inputMissingLabel.found_append text more

/-- Two images, the first without alternative text, and an input without a label. -/
theorem issue?_of_tagPage_mixed :
    let images : TagPage "<img" := ⟨"<p>".toList, by decide +kernel,
      [⟨⟨"<IMG".toList, by decide, " src=a".toList, by decide, by decide⟩, ['\n'],
          by decide +kernel⟩,
        ⟨⟨"<img".toList, by decide, " ALT=b".toList, by decide, by decide⟩,
          "<Input id=c>".toList, by decide +kernel⟩]⟩
    let inputs : TagPage "<input" := ⟨"<p><IMG src=a>\n<img ALT=b>".toList, by decide +kernel,
      [⟨⟨"<Input".toList, by decide, " id=c".toList, by decide, by decide⟩, [], by decide +kernel⟩]⟩
    let file : ChangedFile := ⟨"page.html", .added, none, some (String.ofList images.text)⟩
    file.contents = some (String.ofList images.text) ∧
      file.contents = some (String.ofList inputs.text) ∧
      (¬ ∀ part ∈ images.sections, Holds part.tag.attributes "alt=") ∧
      (¬ ∀ part ∈ inputs.sections, Holds part.tag.attributes "aria-label") ∧
      (Rule.pattern imgMissingAlt).issue? .accessibility file =
        .ok (some ⟨.accessibility, .medium, "page.html", none,
          "Found 1 img tag(s) without alt attribute",
          some "Add descriptive alt text to all images for screen readers"⟩) ∧
      (Rule.pattern inputMissingLabel).issue? .accessibility file =
        .ok (some ⟨.accessibility, .medium, "page.html", none,
          "Found 1 input(s) without proper labeling",
          some "Ensure all form inputs have associated labels or aria-label attributes"⟩) := by
  intro images inputs file
  have contents : file.contents = some (String.ofList images.text) := rfl
  have same : images.text = inputs.text := by decide
  have lacksText : ¬ ∀ part ∈ images.sections, Holds part.tag.attributes "alt=" := by decide +kernel
  have lacksLabel : ¬ ∀ part ∈ inputs.sections, Holds part.tag.attributes "aria-label" := by
    decide +kernel
  have oneImage : (images.without "alt=").length = 1 := by decide +kernel
  have oneInput : (inputs.without "aria-label").length = 1 := by decide +kernel
  obtain ⟨ofImages, ofInputs, -⟩ := issue?_of_tagPage file .accessibility
  refine ⟨contents, same ▸ contents, lacksText, lacksLabel, ?_, ?_⟩
  · rw [(ofImages images contents).2 lacksText, oneImage]
    rfl
  · rw [(ofInputs inputs (same ▸ contents)).2 lacksLabel, oneInput]
    rfl

end PatchReview
