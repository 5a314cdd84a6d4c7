import PatchReview.Proofs.Host.Entries

/-!
# What comes of the entries of a listing

An entry of any shape is skipped, fails, or has a file. The contents of a file are fetched
by themselves, and what comes of that is a text, or nothing with a warning, or a failure
that is not tolerated: an answer that is nested too deeply, or one whose content is there
and is not a text (`BreaksOff`). With other replies the files differ in nothing but their
contents (`results_of_same_entries`).
-/

namespace PatchReview.Host

variable {failure : Failure} {faultyLine : FaultyLine}

-- ---------------------------------------------------------------------------
-- Replies
-- ---------------------------------------------------------------------------

/-- What a request may come to: an answer of any kind, or none. -/
inductive IsHeard : HostReply → Prop
  | answered : IsHeard (.http status reason body)
  | lost : IsHeard (.raised (.request kind detail))

/-- The replies to a request for contents that end a listing. -/
inductive BreaksOff : HostReply → Failure → Prop
  | nested (fine : Http.isErrorStatus status = false)
      (read : Json.read body.toList = .error (.tooNested container)) :
      BreaksOff (.http status reason body)
        (.tooDeep (Json.ReadFault.message body.toList (.tooNested container)))
  | noText (fine : Http.isErrorStatus status = false) (read : Json.read body.toList = .ok answer)
      (held : answer.field? "content" = some content) (present : content.isPresent = true)
      (other : ∀ text, content ≠ .str text) :
      BreaksOff (.http status reason body) .wrongKind

def heldText : HostReply → Option String
  | .raised _ => none
  | .http status _ body =>
    if Http.isErrorStatus status then none
    else (Json.read body.toList).toOption.bind fun answer => (contentsOf answer).toOption.join

def fetched (place : String) (reply : HostReply) : Except Failure (Option String) :=
  ((bodyOf .get place reply).bind jsonBody).bind contentsOf

/-- What is made of that: no contents where the failure is tolerated. -/
def tolerated : Except Failure (Option String) → Except Failure (Option String)
  | .ok found => .ok found
  | .error failure => if isTolerated failure then .ok none else .error failure

theorem contentsOf_eq_error (h : contentsOf answer = .error failure) :
    isTolerated failure = true ∨
      failure = .wrongKind ∧
        ∃ content, answer.field? "content" = some content ∧ content.isPresent = true ∧
          ∀ text, content ≠ .str text := by
  unfold contentsOf at h
  split at h
  · cases h
  · next content held =>
    split at h
    · cases h
    · next present =>
      split at h
      · left
        split at h
        · next octets _ =>
          unfold decodeText at h
          split at h
          · cases h
          · cases h
            rfl
        · cases h
          rfl
      · next other =>
        cases h
        exact .inr ⟨rfl, content, held, by simpa using present, other⟩

theorem contentsOf_of_other (held : answer.field? "content" = some content)
    (present : content.isPresent = true) (other : ∀ text, content ≠ .str text) :
    contentsOf answer = .error .wrongKind := by
  simp only [contentsOf, held, present, Bool.not_true, Bool.false_eq_true, if_false]

theorem jsonBody_eq_error (h : jsonBody body = .error failure) :
    isTolerated failure = true ∨
      ∃ container, Json.read body.toList = .error (.tooNested container) ∧
        failure = .tooDeep (Json.ReadFault.message body.toList (.tooNested container)) := by
  unfold jsonBody at h
  cases read : Json.read body.toList with
  | ok answer =>
    rw [read] at h
    cases h
  | error fault =>
    rw [read] at h
    cases fault with
    | tooNested container =>
      cases h
      exact .inr ⟨container, rfl, rfl⟩
    | _ =>
      cases h
      exact .inl rfl

theorem fetched_of_fine (fine : Http.isErrorStatus status = false) (place : String) :
    fetched place (.http status reason body) = (jsonBody body).bind contentsOf := by
  rw [fetched, bodyOf, fine]
  rfl

theorem tolerated_of_breaksOff (h : BreaksOff reply failure) (place : String) :
    tolerated (fetched place reply) = .error failure := by
  cases h with
  | nested fine read =>
    rw [fetched_of_fine fine, jsonBody, read]
    rfl
  | noText fine read held present other =>
    rw [fetched_of_fine fine, jsonBody_eq_ok read]
    show tolerated (contentsOf _) = _
    rw [contentsOf_of_other held present other]
    rfl

/-- A reply that does not break a listing off leaves the text that it holds. -/
theorem tolerated_fetched (heard : IsHeard reply) (place : String) :
    tolerated (fetched place reply) = .ok (heldText reply) ∨ ∃ failure, BreaksOff reply failure := by
  cases heard with
  | lost => exact .inl rfl
  | @answered status reason body =>
    cases fine : Http.isErrorStatus status with
    | true =>
      left
      simp only [fetched, bodyOf, heldText, fine, if_true]
      rfl
    | false =>
      rw [fetched_of_fine fine, heldText, fine, if_neg Bool.false_ne_true]
      cases read : Json.read body.toList with
      | error fault =>
        obtain ⟨failure, failed⟩ : ∃ failure, jsonBody body = .error failure := by
          rw [jsonBody, read]
          exact ⟨_, rfl⟩
        rw [failed]
        obtain tolerates | ⟨container, nested, -⟩ := jsonBody_eq_error failed
        · exact .inl (if_pos tolerates)
        · exact .inr ⟨_, .nested fine nested⟩
      | ok answer =>
        rw [jsonBody_eq_ok read]
        show tolerated (contentsOf answer) = .ok (contentsOf answer).toOption.join ∨ _
        cases contents : contentsOf answer with
        | ok found => exact .inl rfl
        | error failure =>
          obtain tolerates | ⟨rfl, content, held, present, other⟩ := contentsOf_eq_error contents
          · exact .inl (if_pos tolerates)
          · exact .inr ⟨_, .noText fine read held present other⟩

theorem eq_heldText_of_tolerated (h : tolerated (fetched place reply) = .ok found) :
    found = heldText reply := by
  cases reply with
  | http status reason body =>
    obtain same | ⟨failure, breaks⟩ := tolerated_fetched .answered place
    · exact Except.ok.inj (h.symm.trans same)
    · rw [tolerated_of_breaksOff breaks] at h
      cases h
  | raised failure =>
    obtain ⟨fault, failed⟩ : ∃ fault, fetched place (.raised failure) = .error fault := by
      cases failure <;> exact ⟨_, rfl⟩
    rw [failed, tolerated] at h
    split at h <;> cases h
    rfl

-- ---------------------------------------------------------------------------
-- Entries
-- ---------------------------------------------------------------------------

/-- An entry of a listing, of any shape, and the reply to a request for its contents. -/
@[ext]
structure Item where
  entry : Json
  reply : HostReply

def isListed (entry : Json) : Bool :=
  match classify entry with
  | .ok (.file ..) => true
  | _ => false

/-- The name that the contents of an entry are asked for by, if they are asked
for. -/
def asked? (entry : Json) : Option String :=
  match classify entry with
  | .ok (.file filename status _) =>
    if status ≠ .removed ∧ Utf8.unencodable? filename.toList = none then some filename else none
  | _ => none

def skipped (faultyLine : FaultyLine) (count : Except Failure String) :
    Except Failure (Option ChangedFile) :=
  match count, faultyLine with
  | .error failure, .raised => .error failure
  | _, _ => .ok none

def fileOf (faultyLine : FaultyLine) (entry : Json) (contents : Except Failure (Option String)) :
    Except Failure (Option ChangedFile) :=
  (classify entry).bind fun
    | .tooLarge _ changes => skipped faultyLine (changesText changes)
    | .notAnalyzable => .ok none
    | .file filename status patch =>
      contents.bind fun contents => (changedFile filename status patch contents).map some

namespace Item

def isAsked (item : Item) : Bool := (asked? item.entry).isSome

/-- The contents are asked for, and the reply ends the listing. -/
def Breaks (item : Item) (failure : Failure) : Prop :=
  item.isAsked = true ∧ BreaksOff item.reply failure

def exchange (host : Host) (repo ref : Json) (item : Item) : List (HostRequest × HostReply) :=
  (asked? item.entry).toList.map fun filename =>
    (host.contentsRequest repo filename ref, item.reply)

def contents (repo : Json) (item : Item) : Except Failure (Option String) :=
  match asked? item.entry with
  | none => .ok none
  | some filename => tolerated (fetched (contentsPlace repo filename) item.reply)

def text (item : Item) : Option String := if item.isAsked then heldText item.reply else none

def result (faultyLine : FaultyLine) (repo : Json) (item : Item) :
    Except Failure (Option ChangedFile) :=
  fileOf faultyLine item.entry (item.contents repo)

theorem contents_of_not_isAsked {item : Item} (h : item.isAsked = false) :
    item.contents repo = .ok none := by
  rw [isAsked, Option.isSome_eq_false_iff, Option.isNone_iff_eq_none] at h
  rw [contents, h]

theorem contents_of_isAsked {item : Item} (h : item.isAsked = true) (repo : Json) :
    ∃ place, item.contents repo = tolerated (fetched place item.reply) := by
  obtain ⟨filename, asked⟩ := Option.isSome_iff_exists.mp h
  exact ⟨contentsPlace repo filename, by rw [contents, asked]⟩

theorem text_of_isAsked {item : Item} (h : item.isAsked = true) :
    item.text = heldText item.reply := by
  rw [text, h, if_pos rfl]

theorem text_of_not_isAsked {item : Item} (h : item.isAsked = false) : item.text = none := by
  rw [text, h, if_neg Bool.false_ne_true]

/-- The contents of an entry are the text of its reply, unless that breaks off. -/
theorem contents_eq_text {item : Item} (heard : IsHeard item.reply)
    (whole : ∀ failure, ¬ item.Breaks failure) (repo : Json) :
    item.contents repo = .ok item.text := by
  cases asked : item.isAsked with
  | false => rw [contents_of_not_isAsked asked, text_of_not_isAsked asked]
  | true =>
    obtain ⟨place, contents⟩ := contents_of_isAsked asked repo
    obtain same | ⟨failure, breaks⟩ := tolerated_fetched heard place
    · rw [contents, same, text_of_isAsked asked]
    · exact absurd ⟨asked, breaks⟩ (whole failure)

theorem eq_text_of_contents {item : Item} (h : item.contents repo = .ok found) :
    found = item.text := by
  cases asked : item.isAsked with
  | false =>
    rw [contents_of_not_isAsked asked] at h
    rw [text_of_not_isAsked asked]
    exact (Except.ok.inj h).symm
  | true =>
    obtain ⟨place, contents⟩ := contents_of_isAsked asked repo
    rw [contents] at h
    rw [text_of_isAsked asked]
    exact eq_heldText_of_tolerated h

end Item

def results (faultyLine : FaultyLine) (repo : Json) : List Item → Except Failure (List ChangedFile)
  | [] => .ok []
  | item :: rest =>
    (item.result faultyLine repo).bind fun first =>
      (results faultyLine repo rest).map (first.toList ++ ·)

theorem results_append (faultyLine : FaultyLine) (repo : Json) (items others : List Item) :
    results faultyLine repo (items ++ others) =
      (results faultyLine repo items).bind fun files =>
        (results faultyLine repo others).map (files ++ ·) := by
  induction items with
  | nil =>
    show results faultyLine repo others = (results faultyLine repo others).map ([] ++ ·)
    cases results faultyLine repo others <;> rfl
  | cons item rest ih =>
    simp only [List.cons_append, results, ih]
    cases item.result faultyLine repo <;> cases results faultyLine repo rest <;>
      cases results faultyLine repo others <;> simp [Except.bind, Except.map]

-- ---------------------------------------------------------------------------
-- The same entries with other replies
-- ---------------------------------------------------------------------------

def described (file : ChangedFile) : String × FileStatus × Option String :=
  (file.filename, file.status, file.patch)

theorem changedFile_eq_ok (h : changedFile filename status patch contents = .ok file)
    (others : Option String) :
    file.contents = contents ∧
      changedFile filename status patch others = .ok { file with contents := others } := by
  unfold changedFile at h ⊢
  split at h
  · cases h
    exact ⟨rfl, rfl⟩
  · cases h

theorem skipped_eq_ok (h : skipped faultyLine count = .ok found) : found = none := by
  unfold skipped at h
  split at h <;> cases h
  rfl

theorem fileOf_eq_ok (h : fileOf faultyLine entry (.ok contents) = .ok found)
    (others : Option String) :
    found.map (·.contents) = (if isListed entry then some contents else none) ∧
      fileOf faultyLine entry (.ok others) =
        .ok (found.map fun file => { file with contents := others }) := by
  unfold fileOf at h ⊢
  unfold isListed
  cases classified : classify entry with
  | error failure =>
    rw [classified] at h
    cases h
  | ok listed =>
    rw [classified] at h
    cases listed with
    | tooLarge filename changes =>
      obtain rfl := skipped_eq_ok h
      exact ⟨rfl, h⟩
    | notAnalyzable =>
      cases h
      exact ⟨rfl, rfl⟩
    | file filename status patch =>
      change (changedFile filename status patch contents).map some = .ok found at h
      cases made : changedFile filename status patch contents with
      | error failure =>
        rw [made] at h
        cases h
      | ok file =>
        rw [made] at h
        cases h
        obtain ⟨same, remade⟩ := changedFile_eq_ok made others
        exact ⟨congrArg some same, congrArg (Except.map some) remade⟩

theorem fileOf_error (asked : (asked? entry).isSome) (failure : Failure) :
    fileOf faultyLine entry (.error failure) = .error failure := by
  unfold asked? at asked
  unfold fileOf
  split at asked
  · next classified => rw [classified]; rfl
  · cases asked

namespace Item

theorem contents_of_result {item : Item} (h : item.result faultyLine repo = .ok found) :
    item.contents repo = .ok item.text := by
  cases came : item.contents repo with
  | ok contents => rw [eq_text_of_contents came]
  | error failure =>
    cases asked : item.isAsked with
    | false =>
      rw [contents_of_not_isAsked asked] at came
      cases came
    | true =>
      rw [result, came, fileOf_error asked] at h
      cases h

theorem result_of_breaks {item : Item} (h : item.Breaks failure) (repo : Json) :
    item.result faultyLine repo = .error failure := by
  obtain ⟨place, contents⟩ := contents_of_isAsked h.1 repo
  rw [result, contents, tolerated_of_breaksOff h.2, fileOf_error h.1]

theorem result_of_same_entry {item other : Item} (same : item.entry = other.entry)
    (comes : other.result faultyLine repo = .ok found) (heard : IsHeard item.reply)
    (whole : ∀ failure, ¬ item.Breaks failure) :
    item.result faultyLine repo =
      .ok (found.map fun file => { file with contents := item.text }) := by
  have contents := contents_of_result comes
  rw [result, contents] at comes
  rw [result, contents_eq_text heard whole, same]
  exact (fileOf_eq_ok comes item.text).2

end Item

theorem results_cons_eq_ok :
    results faultyLine repo (item :: rest) = .ok files ↔
      ∃ first others, item.result faultyLine repo = .ok first ∧
        results faultyLine repo rest = .ok others ∧ files = first.toList ++ others := by
  rw [results]
  cases item.result faultyLine repo with
  | error failure => simp [Except.bind]
  | ok first =>
    cases results faultyLine repo rest with
    | error failure => simp [Except.bind, Except.map]
    | ok others => simp [Except.bind, Except.map, eq_comm]

theorem contents_of_results (h : results faultyLine repo items = .ok files) :
    files.map (·.contents) = (items.filter (isListed ·.entry)).map Item.text := by
  induction items generalizing files with
  | nil =>
    cases h
    rfl
  | cons item rest ih =>
    obtain ⟨first, others, found, later, rfl⟩ := results_cons_eq_ok.mp h
    have contents := Item.contents_of_result found
    rw [Item.result, contents] at found
    have text := (fileOf_eq_ok found none).1
    cases listed : isListed item.entry <;> cases first <;> simp_all

/-- With other replies, either one of them breaks a listing off, or the files differ in
nothing but their contents. -/
theorem results_of_same_entries {items others : List Item}
    (same : items.map Item.entry = others.map Item.entry)
    (comes : results faultyLine repo others = .ok whole)
    (heard : ∀ item ∈ items, IsHeard item.reply) :
    (∃ item ∈ items, ∃ failure, item.Breaks failure ∧
        results faultyLine repo items = .error failure) ∨
      (∀ item ∈ items, ∀ failure, ¬ item.Breaks failure) ∧
        ∃ files, results faultyLine repo items = .ok files ∧
          files.map described = whole.map described := by
  induction items generalizing others whole with
  | nil =>
    obtain rfl : others = [] := by simpa using same.symm
    exact .inr ⟨nofun, whole, comes, rfl⟩
  | cons item rest ih =>
    obtain ⟨other, later, rfl⟩ : ∃ other later, others = other :: later := by
      cases others with
      | nil => cases same
      | cons other later => exact ⟨other, later, rfl⟩
    rw [List.forall_mem_cons] at heard
    obtain ⟨sameEntry, sameRest⟩ := List.cons.inj same
    obtain ⟨first, whole, found, wholeLater, rfl⟩ := results_cons_eq_ok.mp comes
    -- The first reply that breaks off decides how the listing fails.
    by_cases here : ∃ failure, item.Breaks failure
    · obtain ⟨failure, breaks⟩ := here
      refine .inl ⟨item, List.mem_cons_self, failure, breaks, ?_⟩
      rw [results, Item.result_of_breaks breaks]
      rfl
    · have goesOn := not_exists.mp here
      have result := Item.result_of_same_entry sameEntry found heard.1 goesOn
      obtain ⟨broken, among, failure, breaks, failed⟩ | ⟨goOn, files, results, alike⟩ :=
        ih sameRest wholeLater heard.2
      · refine .inl ⟨broken, List.mem_cons_of_mem _ among, failure, breaks, ?_⟩
        rw [results, result, failed]
        rfl
      · refine .inr ⟨List.forall_mem_cons.mpr ⟨goesOn, goOn⟩, _,
          results_cons_eq_ok.mpr ⟨_, files, result, results, rfl⟩, ?_⟩
        cases first <;> simp [alike, described]

theorem listed_entries {items others : List Item}
    (same : items.map Item.entry = others.map Item.entry) :
    (items.filter (isListed ·.entry)).map Item.entry =
      (others.filter (isListed ·.entry)).map Item.entry := by
  have listed := congrArg (List.filter isListed) same
  rwa [List.filter_map, List.filter_map] at listed

theorem eq_of_map_eq {x y : Option α} {f : α → β} {g : α → γ}
    (apart : ∀ a b, f a = f b → g a = g b → a = b) (hf : x.map f = y.map f)
    (hg : x.map g = y.map g) : x = y := by
  cases x <;> cases y
  · rfl
  · cases hf
  · cases hf
  · exact congrArg some (apart _ _ (Option.some.inj hf) (Option.some.inj hg))

theorem getElem?_eq_of_reply {items others : List Item} {n : Nat}
    (same : items.map Item.entry = others.map Item.entry)
    (reply : (items[n]?).map Item.reply = (others[n]?).map Item.reply) : items[n]? = others[n]? := by
  have entry := congrArg (·[n]?) same
  simp only [List.getElem?_map] at entry
  exact eq_of_map_eq (fun _ _ => Item.ext) entry reply

theorem eq_of_described {file other : ChangedFile} (known : described file = described other)
    (contents : file.contents = other.contents) : file = other := by
  cases file
  cases other
  simp_all [described]

theorem getElem?_eq_of_described {files others : List ChangedFile} {n : Nat}
    (alike : files.map described = others.map described)
    (contents : (files.map (·.contents))[n]? = (others.map (·.contents))[n]?) :
    files[n]? = others[n]? := by
  have known := congrArg (·[n]?) alike
  simp only [List.getElem?_map] at known contents
  exact eq_of_map_eq (fun _ _ => eq_of_described) known contents

end PatchReview.Host
