import PatchReview.Proofs.Analyzer.Direct
import PatchReview.Proofs.Analyzer.Quotes
import PatchReview.Proofs.Pattern.Steps

/-!
# Addresses without encryption

The pattern of quoted addresses matches those with encryption, too, and the rule reports
only if one without it is among the matches. A quote belongs to one match at most. So an
address without encryption is missed exactly if its opening quote closes another one,
which has encryption if nothing is reported.
-/

namespace PatchReview

open Text (Begins Spells)

/-- The address is one of this machine. -/
def BeginsLoopback (address : List Char) : Prop :=
  Begins address "localhost" ∨ Begins address "127.0.0.1"

instance : Decidable (BeginsLoopback address) := inferInstanceAs (Decidable (_ ∨ _))

/-- An address in quotes, up to the first quote behind it. -/
structure QuotedUrl where
  quote : Char
  opens : IsQuote quote
  written : List Char
  scheme : Spells written "http://" ∨ Spells written "https://"
  value : List Char
  unquoted : QuoteFree value
  last : Char
  closes : IsQuote last

namespace QuotedUrl

def text (url : QuotedUrl) : List Char := url.quote :: (url.written ++ (url.value ++ [url.last]))

theorem quoteFree (url : QuotedUrl) : QuoteFree (url.written ++ url.value) := by
  refine quoteFree_append.mpr ⟨?_, url.unquoted⟩
  rcases url.scheme with plain | encrypted
  · exact .of_spells plain (by decide)
  · exact .of_spells encrypted (by decide)

theorem two_le_length (url : QuotedUrl) : 2 ≤ url.text.length := by
  simp [text]
  omega

end QuotedUrl

def BeginsQuoted (scheme : String) (text : List Char) : Prop :=
  ∃ quote written address, text = quote :: (written ++ address) ∧ IsQuote quote ∧
    Spells written scheme

/-- The text begins with a quoted address without encryption, which is not one of this
machine. -/
def BeginsPlain (text : List Char) : Prop :=
  ∃ quote written address, text = quote :: (written ++ address) ∧ IsQuote quote ∧
    Spells written "http://" ∧ ¬ BeginsLoopback address ∧ ¬ QuoteFree address

namespace Pattern

variable {before taken after : List Char}

theorem spells_scheme_iff :
    Spells written "http://" ∨ Spells written "https://" ↔
      ∃ name secure mark, written = name ++ (secure ++ mark) ∧ Spells name "http" ∧
        ((∃ d, secure = [d] ∧ sameLetter 's' d = true) ∨ secure = []) ∧ Spells mark "://" := by
  have letter {secure : List Char} :
      (∃ d, secure = [d] ∧ sameLetter 's' d = true) ↔ Spells secure "s" := by
    have same : (Pattern.letter 's').Spans [] secure [] ↔ (literal "s").Spans [] secure [] :=
      spans_seq_empty.symm
    rwa [spans_letter, spans_literal] at same
  have plain : "http://" = "http" ++ "://" := by decide
  have encrypted : "https://" = "http" ++ ("s" ++ "://") := by decide
  simp only [plain, encrypted, Text.spells_append, letter]
  constructor
  · rintro (⟨name, mark, rfl, named, marked⟩ |
      ⟨name, _, rfl, named, secure, mark, rfl, safe, marked⟩)
    · exact ⟨name, [], mark, rfl, named, .inr rfl, marked⟩
    · exact ⟨name, secure, mark, rfl, named, .inl safe, marked⟩
  · rintro ⟨name, secure, mark, rfl, named, safe | rfl, marked⟩
    · exact .inr ⟨name, _, rfl, named, secure, mark, rfl, safe, marked⟩
    · exact .inl ⟨name, mark, rfl, named, marked⟩

theorem spans_notLoopback :
    (notAhead (anyOf ["localhost", "127.0.0.1"])).Spans before taken after ↔
      taken = [] ∧ ¬ BeginsLoopback after := by
  have names : anyOf ["localhost", "127.0.0.1"] = alternatives ["localhost", "127.0.0.1"] := rfl
  rw [names, spans_notAhead, BeginsLoopback, Text.begins_iff, Text.begins_iff]
  refine and_congr_right fun _ => ?_
  simp only [spans_alternatives (List.cons_ne_nil _ _), List.mem_cons, List.not_mem_nil, or_false,
    exists_eq_or_imp, exists_eq_left, not_or]
  constructor
  · intro unseen
    constructor
    · rintro ⟨seen, rest, whole, spells⟩
      exact (unseen seen rest whole).1 spells
    · rintro ⟨seen, rest, whole, spells⟩
      exact (unseen seen rest whole).2 spells
  · rintro ⟨unnamed, unnumbered⟩ seen rest whole
    exact ⟨fun spells => unnamed ⟨seen, rest, whole, spells⟩,
      fun spells => unnumbered ⟨seen, rest, whole, spells⟩⟩

theorem spans_url :
    insecureHttpUrl.pattern.Spans before taken after ↔
      ∃ url : QuotedUrl, taken = url.text ∧ ¬ BeginsLoopback (url.value ++ url.last :: after) := by
  simp only [insecureHttpUrl, spans_sequence_cons, spans_sequence_nil, spans_one, spans_literal,
    spans_optional, spans_letter, has_quoteSign, spans_inQuotes, spans_notLoopback]
  constructor
  · rintro ⟨_, _, rfl, ⟨quote, rfl, opens⟩, name, _, rfl, named, secure, _, rfl, safe, mark, _, rfl,
      marked, _, _, rfl, ⟨rfl, away⟩, value, _, rfl, unquoted, _, _, rfl, ⟨last, rfl, closes⟩, rfl⟩
    have scheme := spells_scheme_iff.mpr ⟨name, secure, mark, rfl, named, safe, marked⟩
    refine ⟨⟨quote, opens, _, scheme, value, unquoted, last, closes⟩, ?_, by simpa using away⟩
    simp [QuotedUrl.text]
  · rintro ⟨⟨quote, opens, written, scheme, value, unquoted, last, closes⟩, rfl, away⟩
    obtain ⟨name, secure, mark, rfl, named, safe, marked⟩ := spells_scheme_iff.mp scheme
    exact ⟨[quote], _, rfl, ⟨quote, rfl, opens⟩, name, _, by simp, named, secure, _, rfl, safe,
      mark, _, rfl, marked, [], _, rfl, ⟨rfl, by simpa using away⟩, value, [last], rfl, unquoted,
      [last], [], rfl, ⟨last, rfl, closes⟩, rfl⟩

theorem takesSome_url : insecureHttpUrl.pattern.TakesSome := takesSome_of_mayBeEmpty (by decide)

theorem exists_url_of_listed (listed : m ∈ insecureHttpUrl.pattern.findAll text) :
    ∃ (url : QuotedUrl) (rest : List Char), m.text = url.text ∧ m.start.after = m.text ++ rest ∧
      ¬ BeginsLoopback (url.value ++ url.last :: rest) := by
  obtain ⟨rest, place, finds⟩ := (takesSome_url.scans [] text).finds listed
  obtain ⟨url, whole, away⟩ := spans_url.mp finds.spans
  exact ⟨url, rest, whole, place, away⟩

end Pattern

-- ---------------------------------------------------------------------------
-- Which matches are accepted
-- ---------------------------------------------------------------------------

theorem begins_http_iff (scheme : Spells written "http://" ∨ Spells written "https://") :
    Begins (written ++ rest) "http:" ↔ Spells written "http://" := by
  rw [Begins, List.map_append]
  constructor
  · intro begins
    refine scheme.resolve_right fun encrypted => ?_
    have whole := List.prefix_append (written.map Text.fold) (rest.map Text.fold)
    have within := List.prefix_of_prefix_length_le begins whole (by rw [encrypted]; decide)
    rw [encrypted] at within
    exact absurd within (by decide)
  · intro plain
    rw [plain]
    exact List.IsPrefix.trans (by decide) (List.prefix_append _ _)

theorem exists_beginning_iff (isQuote : IsQuote quote) :
    (∃ beginning ∈ ["\"http:", "'http:"],
      beginning.toList.isPrefixOf ((quote :: rest).map Text.lowerAscii) = true) ↔
        Begins rest "http:" := by
  have double : "\"http:".toList = '"' :: "http:".toList := rfl
  have single : "'http:".toList = '\'' :: "http:".toList := rfl
  rw [← Text.isPrefixOf_lowerAscii_iff (by decide)]
  simp only [List.mem_cons, List.not_mem_nil, or_false, exists_eq_or_imp, exists_eq_left, double,
    single, List.map_cons, List.isPrefixOf_cons_cons]
  rcases isQuote with rfl | rfl
  · simp [show Text.lowerAscii '"' = '"' by decide]
  · simp [show Text.lowerAscii '\'' = '\'' by decide]

theorem QuotedUrl.beginsQuoted_iff (url : QuotedUrl) :
    BeginsQuoted "http://" url.text ↔ Spells url.written "http://" := by
  constructor
  · rintro ⟨_, written, address, same, -, plain⟩
    obtain ⟨-, same⟩ := List.cons.inj same
    rw [← begins_http_iff url.scheme, same]
    exact (begins_http_iff (.inl plain)).mpr plain
  · intro plain
    exact ⟨url.quote, url.written, _, rfl, url.opens, plain⟩

theorem holds_insecureHttpUrl_iff :
    insecureHttpUrl.accept.holds (insecureHttpUrl.found text) = true ↔
      ∃ m ∈ insecureHttpUrl.pattern.findAll text, BeginsQuoted "http://" m.text := by
  simp only [insecureHttpUrl, Acceptance.holds, PatternRule.found, List.any_map, List.any_eq_true,
    Function.comp_apply]
  refine exists_congr fun m => and_congr_right fun listed => ?_
  obtain ⟨url, -, whole, -⟩ := Pattern.exists_url_of_listed listed
  rw [whole, url.beginsQuoted_iff, QuotedUrl.text, exists_beginning_iff url.opens,
    begins_http_iff url.scheme]

-- ---------------------------------------------------------------------------
-- Addresses and matches
-- ---------------------------------------------------------------------------

variable {text passed rest : List Char} {m : Match}

theorem beginsPlain_of_listed (listed : m ∈ insecureHttpUrl.pattern.findAll text)
    (quoted : BeginsQuoted "http://" m.text) : BeginsPlain m.start.after := by
  obtain ⟨url, rest, whole, place, away⟩ := Pattern.exists_url_of_listed listed
  rw [whole, url.beginsQuoted_iff] at quoted
  refine ⟨url.quote, url.written, url.value ++ url.last :: rest, ?_, url.opens, quoted, away, ?_⟩
  · simp [place, whole, QuotedUrl.text]
  · intro free
    exact free url.last (by simp) url.closes

theorem stop_ne_of_listed {n : Match} (hm : m ∈ insecureHttpUrl.pattern.findAll text)
    (hn : n ∈ insecureHttpUrl.pattern.findAll text) : n.stop ≠ m.start.before.length + 1 := by
  have long {m : Match} (listed : m ∈ insecureHttpUrl.pattern.findAll text) :
      2 ≤ m.text.length := by
    obtain ⟨url, -, whole, -⟩ := Pattern.exists_url_of_listed listed
    rw [whole]
    exact url.two_le_length
  have := long hm
  have := long hn
  rcases (Pattern.takesSome_url.scans [] text).apart hm hn with rfl | before | behind <;>
    simp only [Match.stop] at * <;> omega

theorem ends_ne_nil_of_beginsPlain (begins : BeginsPlain rest) (before : List Char) :
    insecureHttpUrl.pattern.ends ⟨before, rest⟩ ≠ [] := by
  obtain ⟨quote, written, address, rfl, isQuote, plain, away, unfree⟩ := begins
  obtain ⟨last, left, split, isLast⟩ := exists_quote unfree
  let url : QuotedUrl := ⟨quote, isQuote, written, .inl plain, upToQuote address,
    quoteFree_upToQuote address, last, isLast⟩
  refine Pattern.ends_ne_nil.mpr ⟨url.text, left, ?_, Pattern.spans_url.mpr ⟨url, rfl, ?_⟩⟩
  · conv_lhs => rw [split]
    simp [url, QuotedUrl.text]
  · rwa [← split]

/-- Behind the one that opens an address, its only quote is the last one. -/
theorem QuotedUrl.eq_nil_of_text_eq {url : QuotedUrl} {sign c : Char} {inner more : List Char}
    (isQuote : IsQuote sign) (same : url.text = c :: (inner ++ sign :: more)) : more = [] := by
  have absent : sign ∉ url.written ++ url.value := fun inside => url.quoteFree sign inside isQuote
  have follows : inner ++ sign :: more = (url.written ++ url.value) ++ [url.last] := by
    simpa using (List.cons.inj same).2.symm
  obtain ⟨between, -, closes⟩ := exists_left_of_append absent follows
  cases between with
  | nil => exact (List.cons.inj closes).2.symm
  | cons e between => simp at closes

/-- An address without encryption is matched, unless its opening quote closes a match. -/
theorem exists_listed_of_beginsPlain (whole : text = passed ++ rest) (begins : BeginsPlain rest) :
    ∃ m ∈ insecureHttpUrl.pattern.findAll text,
      BeginsQuoted "http://" m.text ∧ m.start.before.length = passed.length ∨
        m.stop = passed.length + 1 ∧ m.start.before.length < passed.length := by
  obtain ⟨m, listed, inner, more, behind, taken, nonempty, goesOn, place⟩ :=
    (Pattern.takesSome_url.scans [] text).exists_over whole
      (ends_ne_nil_of_beginsPlain begins _) Pattern.takesSome_url
  obtain ⟨quote, written, address, rfl, isQuote, plain, -, -⟩ := begins
  obtain ⟨found, -, spelled, -⟩ := Pattern.exists_url_of_listed listed
  refine ⟨m, listed, ?_⟩
  cases inner with
  | nil =>
    obtain rfl : more = found.text := by simpa [taken] using spelled
    simp only [QuotedUrl.text, List.cons_append, List.append_assoc, List.cons.injEq] at goesOn
    have begins : Begins (written ++ address) "http:" := (begins_http_iff (.inl plain)).mpr plain
    rw [goesOn.2, begins_http_iff found.scheme] at begins
    refine .inl ⟨?_, by simpa using congrArg List.length place⟩
    rwa [spelled, found.beginsQuoted_iff]
  | cons c inner =>
    -- The match has a quote where the address begins, which can only be its last character.
    obtain ⟨d, more, rfl⟩ := List.exists_cons_of_ne_nil nonempty
    obtain ⟨rfl, -⟩ := List.cons.inj goesOn
    obtain rfl := QuotedUrl.eq_nil_of_text_eq isQuote (spelled.symm.trans taken)
    have position : inner.length + (m.start.before.length + 1) = passed.length := by
      simpa using congrArg List.length place
    refine .inr ⟨?_, by omega⟩
    rw [Match.stop, taken]
    simp
    omega

def plainUrlIssue (category : Category) (file : ChangedFile) : Issue :=
  ⟨category, .medium, file.filename, none, "Insecure HTTP URLs detected",
    some "Use HTTPS URLs to ensure secure communication"⟩

theorem issue?_insecureHttpUrl_cases {file : ChangedFile} (contents : file.contents = some source)
    (category : Category) :
    ((Rule.pattern insecureHttpUrl).issue? category file =
        .ok (some (plainUrlIssue category file)) ∧
      ∃ m ∈ insecureHttpUrl.pattern.findAll source.toList, BeginsQuoted "http://" m.text) ∨
    ((Rule.pattern insecureHttpUrl).issue? category file = .ok none ∧
      ∀ m ∈ insecureHttpUrl.pattern.findAll source.toList, ¬ BeginsQuoted "http://" m.text) := by
  have tells : insecureHttpUrl.Tells "Insecure HTTP URLs detected" := ⟨by decide, rfl⟩
  rw [tells.issue?_eq contents category]
  split
  · next accepted => exact .inl ⟨rfl, holds_insecureHttpUrl_iff.mp accepted.2⟩
  · next refused =>
    refine .inr ⟨rfl, fun m listed plain => refused ⟨?_, ?_⟩⟩
    · exact List.ne_nil_of_mem (List.mem_map_of_mem listed)
    · exact holds_insecureHttpUrl_iff.mpr ⟨m, listed, plain⟩

/-- The rule reports on a file exactly if an address without encryption stands in it whose
opening quote closes no match. So it does not report if there is no such address, and one is
missed only behind an address with encryption that its opening quote closes. -/
theorem issue?_insecureHttpUrl {file : ChangedFile} (contents : file.contents = some source)
    (category : Category) :
    let found := insecureHttpUrl.pattern.findAll source.toList
    let result := (Rule.pattern insecureHttpUrl).issue? category file
    (result = .ok (some (plainUrlIssue category file)) ∨ result = .ok none) ∧
    (result = .ok (some (plainUrlIssue category file)) ↔
      ∃ passed rest, source.toList = passed ++ rest ∧ BeginsPlain rest ∧
        ∀ m ∈ found, m.stop ≠ passed.length + 1) ∧
    ((∀ passed rest, source.toList = passed ++ rest → ¬ BeginsPlain rest) → result = .ok none) ∧
    ∀ passed rest, source.toList = passed ++ rest → BeginsPlain rest → result = .ok none →
      ∃ m ∈ found, m.stop = passed.length + 1 ∧ m.start.before.length < passed.length ∧
        BeginsQuoted "https://" m.text := by
  intro found result
  have place {m : Match} (listed : m ∈ found) (plain : BeginsQuoted "http://" m.text) :
      ∃ passed rest, source.toList = passed ++ rest ∧ BeginsPlain rest ∧
        ∀ n ∈ found, n.stop ≠ passed.length + 1 := by
    obtain ⟨passed, before, whole⟩ :=
      (Pattern.takesSome_url.scans [] source.toList).whole listed
    refine ⟨passed, m.start.after, whole, beginsPlain_of_listed listed plain, ?_⟩
    intro n among
    have apart := stop_ne_of_listed listed among
    simpa [before] using apart
  have encrypted {m : Match} (listed : m ∈ found) (unplain : ¬ BeginsQuoted "http://" m.text) :
      BeginsQuoted "https://" m.text := by
    obtain ⟨url, -, whole, -⟩ := Pattern.exists_url_of_listed listed
    rw [whole, url.beginsQuoted_iff] at unplain
    exact ⟨url.quote, url.written, _, whole, url.opens, url.scheme.resolve_left unplain⟩
  rcases issue?_insecureHttpUrl_cases contents category with
    ⟨reported, m, listed, plain⟩ | ⟨silent, unplain⟩
  · have silence : result ≠ .ok none := fun silent => nomatch reported.symm.trans silent
    refine ⟨.inl reported, ⟨fun _ => place listed plain, fun _ => reported⟩, ?_, ?_⟩
    · intro nothing
      obtain ⟨passed, rest, whole, begins, -⟩ := place listed plain
      exact absurd begins (nothing passed rest whole)
    · intro passed rest whole begins silent
      exact absurd silent silence
  · have missed (passed rest : List Char) (whole : source.toList = passed ++ rest)
        (begins : BeginsPlain rest) :
        ∃ m ∈ found, m.stop = passed.length + 1 ∧ m.start.before.length < passed.length := by
      obtain ⟨m, listed, ⟨plain, -⟩ | closes⟩ := exists_listed_of_beginsPlain whole begins
      · exact absurd plain (unplain m listed)
      · exact ⟨m, listed, closes⟩
    have unreported : result ≠ .ok (some (plainUrlIssue category file)) :=
      fun reported => nomatch silent.symm.trans reported
    refine ⟨.inr silent, ⟨fun reported => absurd reported unreported, ?_⟩, fun _ => silent, ?_⟩
    · rintro ⟨passed, rest, whole, begins, apart⟩
      obtain ⟨m, listed, closes, -⟩ := missed passed rest whole begins
      exact absurd closes (apart m listed)
    · intro passed rest whole begins _
      obtain ⟨m, listed, closes, earlier⟩ := missed passed rest whole begins
      exact ⟨m, listed, closes, earlier, encrypted listed (unplain m listed)⟩

/-- An address that its opening quote hides, and the same one behind another sign. -/
theorem issue?_insecureHttpUrl_hidden :
    let passed := "\"https://a".toList
    let rest := "\"HTTP://b'".toList
    let hidden : ChangedFile := ⟨"a.ts", .modified, none, some (String.ofList (passed ++ rest))⟩
    let shown : ChangedFile := ⟨"b.ts", .added, none, some (String.ofList ('\n' :: rest))⟩
    hidden.contents = some (String.ofList (passed ++ rest)) ∧
      shown.contents = some (String.ofList ('\n' :: rest)) ∧ BeginsPlain rest ∧
      (Rule.pattern insecureHttpUrl).issue? .security hidden = .ok none ∧
      (∃ m ∈ insecureHttpUrl.pattern.findAll (passed ++ rest), m.stop = passed.length + 1 ∧
        m.start.before.length < passed.length ∧ BeginsQuoted "https://" m.text) ∧
      (Rule.pattern insecureHttpUrl).issue? .security shown =
        .ok (some (plainUrlIssue .security shown)) := by
  intro passed rest hidden shown
  have begins : BeginsPlain rest :=
    ⟨'"', "HTTP://".toList, ['b', '\''], rfl, by decide, by decide, by decide, by decide⟩
  have silent : (Rule.pattern insecureHttpUrl).issue? .security hidden = .ok none := by
    decide +kernel
  have contents : hidden.contents = some (String.ofList (passed ++ rest)) := rfl
  have contentsToo : shown.contents = some (String.ofList ('\n' :: rest)) := rfl
  refine ⟨contents, contentsToo, begins, silent, ?_, ?_⟩
  · have missed := (issue?_insecureHttpUrl contents .security).2.2.2 passed rest
    rw [String.toList_ofList] at missed
    exact missed rfl begins silent
  · refine (issue?_insecureHttpUrl contentsToo .security).2.1.mpr ⟨['\n'], rest, ?_, begins, ?_⟩
    · rw [String.toList_ofList]
      rfl
    · rw [String.toList_ofList]
      decide +kernel

end PatchReview
