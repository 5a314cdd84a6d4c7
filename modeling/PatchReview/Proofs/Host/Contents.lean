import PatchReview.Proofs.Encoding.Base64
import PatchReview.Proofs.Encoding.Percent
import PatchReview.Proofs.Host.Isolation

/-!
# Contents as the host sends them

The host sends a text as the base64 of its octets, which it wraps as it likes (`Holds`). Such a
text comes back unchanged, by itself and in the file of a listing (`contents_of_holds`).
It is asked for by the escapes of its path, from which the path can be read off: an address
belongs to one path and ends with it (`runOn_fileContents_escaped`).
-/

namespace PatchReview.Host

-- ---------------------------------------------------------------------------
-- Wrapped texts
-- ---------------------------------------------------------------------------

/-- A reply with a text as the host sends it: the base64 of its octets, with line feeds at any
places. -/
inductive Holds : HostReply → String → Prop
  | sent (fine : Http.isErrorStatus status = false) (read : Json.read body.toList = .ok answer)
      (content : answer.field? "content" = some (.str wrapped))
      (wraps : Base64.IsWrapped (Utf8.encode text.toList) wrapped.toList) :
      Holds (.http status reason body) text

section

variable {text wrapped : String}

theorem decodeText_encode (text : String) : decodeText (Utf8.encode text.toList) = .ok text := by
  rw [decodeText, Utf8.decode_encode]
  exact congrArg Except.ok String.ofList_toList

theorem wrapped_ne_empty (wraps : Base64.IsWrapped (Utf8.encode text.toList) wrapped.toList)
    (nonempty : text ≠ "") : wrapped ≠ "" := by
  rintro rfl
  have octets : Utf8.encode text.toList = [] :=
    Except.ok.inj ((Base64.decode_of_wrapped wraps).symm.trans rfl)
  have same := Utf8.decode_encode text.toList
  rw [octets] at same
  have nothing : text.toList = [] := Except.ok.inj (same.symm.trans (Utf8.decode_encode []))
  exact nonempty (String.toList_eq_nil_iff.mp nothing)

theorem contentsOf_of_wrapped (content : answer.field? "content" = some (.str wrapped))
    (wraps : Base64.IsWrapped (Utf8.encode text.toList) wrapped.toList) (nonempty : text ≠ "") :
    contentsOf answer = .ok (some text) := by
  have present : (Json.str wrapped).isPresent = true := by
    simpa [Json.isPresent] using wrapped_ne_empty wraps nonempty
  simp only [contentsOf, content, present, Bool.not_true, Bool.false_eq_true, if_false,
    Base64.decode_of_wrapped wraps, decodeText_encode]
  rfl

end

namespace Holds

variable {reply : HostReply} {text : String}

theorem answers (h : Holds reply text) (nonempty : text ≠ "") : Answers reply (some text) := by
  cases h with
  | sent fine read content wraps =>
    exact .sent fine read (contentsOf_of_wrapped content wraps nonempty)

theorem fetched_eq (h : Holds reply text) (nonempty : text ≠ "") (place : String) :
    fetched place reply = .ok (some text) := by
  cases h with
  | sent fine read content wraps =>
    rw [fetched_of_fine fine, jsonBody_eq_ok read]
    exact contentsOf_of_wrapped content wraps nonempty

theorem heldText_eq (h : Holds reply text) (nonempty : text ≠ "") :
    heldText reply = some text := by
  have kept : tolerated (fetched "" reply) = .ok (some text) := by
    rw [h.fetched_eq nonempty]
    rfl
  exact (eq_heldText_of_tolerated kept).symm

theorem eq_of_answers (h : Holds reply text) (nonempty : text ≠ "") (answers : Answers reply found) :
    found = some text := by
  have sent := h.fetched_eq nonempty ""
  obtain got | ⟨-, fault, failed⟩ := contentsOf_of_answers answers ""
  · exact Except.ok.inj (got.symm.trans sent)
  · cases failed.symm.trans sent

end Holds

-- ---------------------------------------------------------------------------
-- Files
-- ---------------------------------------------------------------------------

section

variable {reply : HostReply} {text : String} {entries : List Entry} {entry : Entry} {item : Item}

theorem getElem?_filesOf {n : Nat} (found : (entries.filter Entry.isListed)[n]? = some entry) :
    (filesOf entries)[n]? = some entry.file := by
  rw [filesOf, List.getElem?_map, found]
  rfl

theorem Entry.file_of_holds (asked : entry.isAsked = true)
    (h : Holds entry.reply text) (nonempty : text ≠ "") :
    entry.file = ⟨entry.filename, entry.status, entry.patch, some text⟩ := by
  rw [Entry.file, if_pos asked, h.eq_of_answers nonempty entry.answered]

theorem text_of_holds (asked : item.isAsked = true) (h : Holds item.reply text)
    (nonempty : text ≠ "") : item.text = some text := by
  rw [Item.text_of_isAsked asked, h.heldText_eq nonempty]

theorem Catalog.contents_of_runOn (catalog : Catalog) {host : Host} {repo number ref : Json}
    {session : Session}
    (replies : session.hostReplies = (catalog.exchange host repo number ref).map Prod.snd ++ left)
    (comes : (host.changedFiles repo number ref).runOn session = (.ok files, after)) :
    files.map (·.contents) = catalog.listed.map Item.text := by
  obtain ⟨_, run, -⟩ := catalog.proceeds_changedFiles host repo number ref session left rfl replies
  exact contents_of_results (congrArg Prod.fst (run.symm.trans comes))

/-- A text that the host sends comes back unchanged: by itself, and as the contents of its file
in a listing, whatever the other entries are. -/
theorem contents_of_holds (h : Holds reply text) (nonempty : text ≠ "") (host : Host)
    (repo ref : Json) :
    (∀ (path : String) (session : Session) (left : List HostReply),
      Utf8.unencodable? path.toList = none → session.hostReplies = reply :: left →
      (host.fileContents repo path ref).runOn session =
        (.ok (some text), session.served left [host.contentsRequest repo path ref] [])) ∧
    (∀ (listing : Listing) (number : Json) (session : Session) (left : List HostReply),
      session.hostReplies =
        (listing.exchange host repo number ref listing.pages).map Prod.snd ++ left →
      ∃ files lines,
        (host.changedFiles repo number ref).runOn session =
          (.ok files, session.served left
            ((listing.exchange host repo number ref listing.pages).map Prod.fst) lines) ∧
        ∀ (n : Nat) (entry : Entry), (listing.entries.filter Entry.isListed)[n]? = some entry →
          entry.isAsked = true → entry.reply = reply →
          files[n]? = some ⟨entry.filename, entry.status, entry.patch, some text⟩) ∧
    ∀ (catalog : Catalog) (number : Json) (session after : Session) (left : List HostReply)
      (files : List ChangedFile),
      session.hostReplies = (catalog.exchange host repo number ref).map Prod.snd ++ left →
      (host.changedFiles repo number ref).runOn session = (.ok files, after) →
      ∀ (n : Nat) (item : Item), catalog.listed[n]? = some item → item.isAsked = true →
        item.reply = reply → (files[n]?).map (·.contents) = some (some text) := by
  refine ⟨fun path session left encodable next => ?_, fun listing number session left replies => ?_,
    fun catalog number session after left files replies comes n item found asked same => ?_⟩
  · rw [runOn_fileContents encodable, next]
    exact congrArg (·, _) (h.fetched_eq nonempty _)
  · obtain ⟨lines, run⟩ :=
      listing.exchanges_changedFiles host repo number ref session left replies
    refine ⟨_, lines, run, fun n entry found asked same => ?_⟩
    subst same
    rw [getElem?_filesOf found, Entry.file_of_holds asked h nonempty]
  · subst same
    have contents := congrArg (·[n]?) (catalog.contents_of_runOn replies comes)
    simp only [List.getElem?_map, found] at contents
    rw [contents, Option.map_some, text_of_holds asked h nonempty]

end

def wrappedReply : HostReply :=
  .http 200 none "\x7b\"content\": \"w6n\\nDqQ=\\n=\\n\"\x7d"

theorem read_wrapped : Json.read "\x7b\"content\": \"w6n\\nDqQ=\\n=\\n\"\x7d".toList =
    .ok (.obj [("content", .str "w6n\nDqQ=\n=\n")]) := by
  decide +kernel

theorem holds_wrapped : Holds wrappedReply "éé" := .sent rfl read_wrapped rfl (by decide +kernel)

def wrappedEntry : Entry :=
  { namedEntry "a.css" with
    reply := wrappedReply
    contents := some "éé"
    answered := holds_wrapped.answers (by decide) }

theorem read_sheet : Json.read "[\x7b\"filename\": \"a.css\"\x7d]".toList =
    .ok (.arr [.obj [("filename", .str "a.css")]]) := by decide +kernel

def wrappedListing : Listing := .onePage [wrappedEntry] (by decide) read_sheet

theorem isAsked_wrapped : wrappedEntry.isAsked = true := by decide +kernel

theorem exchange_wrapped (host : Host) (repo number ref : Json) :
    (wrappedListing.exchange host repo number ref wrappedListing.pages).map Prod.snd =
      [wrappedListing.pageReply 0, wrappedReply] := by
  have exchanged := exchange_onePage (show [wrappedEntry].length < 100 by decide) read_sheet host
    repo number ref
  rw [contentsExchange_singleton, isAsked_wrapped] at exchanged
  rw [wrappedListing, exchanged]
  rfl

theorem contents_of_holds_wrapped :
    let list := exampleHost.changedFiles (.str "o/r") (.int 1) (.str "sha")
    let session := Session.ofReplies []
    (∃ after, (exampleHost.fileContents (.str "o/r") "a.css" (.str "sha")).runOn
      { session with hostReplies := [wrappedReply] } = (.ok (some "éé"), after)) ∧
    (∃ files after,
      list.runOn { session with hostReplies := [wrappedListing.pageReply 0, wrappedReply] } =
        (.ok files, after) ∧
      files[0]? = some ⟨"a.css", .modified, none, some "éé"⟩) ∧
    ∃ files after, list.runOn (pairSession (.http 500 none "") wrappedReply) = (.ok files, after) ∧
      (files[1]?).map (·.contents) = some (some "éé") := by
  intro list session
  obtain ⟨alone, listed, cataloged⟩ :=
    contents_of_holds holds_wrapped (by decide) exampleHost (.str "o/r") (.str "sha")
  refine ⟨⟨_, alone "a.css" { session with hostReplies := [wrappedReply] } [] (by decide) rfl⟩, ?_, ?_⟩
  · obtain ⟨files, lines, run, found⟩ := listed wrappedListing (.int 1)
      { session with hostReplies := [wrappedListing.pageReply 0, wrappedReply] } []
      (by rw [exchange_wrapped]; rfl)
    have first : (wrappedListing.entries.filter Entry.isListed)[0]? = some wrappedEntry := by
      show ([wrappedEntry].filter Entry.isListed)[0]? = _
      rw [List.filter_cons_of_pos (show wrappedEntry.isListed = true by decide +kernel)]
      rfl
    exact ⟨files, _, run, found 0 wrappedEntry first isAsked_wrapped rfl⟩
  · obtain ⟨after, run⟩ := run_pair (.http 500 none "") wrappedReply
    have files : results .omitted (.str "o/r") (Catalog.pair (.http 500 none "") wrappedReply).items =
        .ok [⟨"a.ts", .modified, none, none⟩, ⟨"b.ts", .modified, none, some "éé"⟩] := by
      decide +kernel
    rw [files] at run
    exact ⟨_, after, run, cataloged _ _ _ _ _ _ (replies_pair _ _) run 1
      ⟨.obj [("filename", .str "b.ts")], wrappedReply⟩ (by rfl) (by decide +kernel) rfl⟩

-- ---------------------------------------------------------------------------
-- Addresses
-- ---------------------------------------------------------------------------

section

variable {host : Host} {repo ref : Json} {path other : String} {session : Session}
  {request : HostRequest}

theorem contentsPlace_eq (repo : Json) (path : String) :
    contentsPlace repo path =
      s!"/repos/{repo.display}/contents/" ++ String.ofList (Percent.encode path.toList) := by
  simp [contentsPlace, toString]

theorem eq_contentsRequest
    (asks : ((host.fileContents repo path ref).runOn session).2.trace =
      session.trace ++ [.hostAsked request]) :
    request = host.contentsRequest repo path ref := by
  cases encoded : Utf8.unencodable? path.toList with
  | none =>
    rw [runOn_fileContents encoded] at asks
    have same := List.append_cancel_left asks
    exact (Event.hostAsked.inj (List.cons.inj same).1).symm
  | some fault =>
    rw [runOn_fileContents_of_unencodable encoded] at asks
    have lengths := congrArg List.length asks
    simp at lengths

theorem eq_of_contentsPlace (same : contentsPlace repo path = contentsPlace repo other) :
    path = other := by
  rw [contentsPlace_eq, contentsPlace_eq, String.append_right_inj, String.ofList_inj] at same
  exact String.toList_inj.mp (Percent.encode_injective same)

end

/-- Contents are asked for by the escapes of their path, with the ref beside the address. The path
is what the escapes are decoded to, so two paths have two addresses. -/
theorem runOn_fileContents_escaped (host : Host) (repo : Json) :
    (∀ (path : String) (ref : Json) (session : Session),
      (∃ fault, Utf8.unencodable? path.toList = some fault ∧
        (host.fileContents repo path ref).runOn session =
          (.error (.unencodable fault), session)) ∨
      Utf8.unencodable? path.toList = none ∧
        ∃ escaped,
          ((host.fileContents repo path ref).runOn session).2.trace = session.trace ++
            [.hostAsked ⟨.get,
              host.apiUrl ++ (s!"/repos/{repo.display}/contents/" ++ String.ofList escaped),
              some [("ref", ref)], none, host.headers, timeout⟩] ∧
          Percent.IsEscaped escaped ∧ '?' ∉ escaped ∧ '#' ∉ escaped ∧
          Percent.decode escaped = some path.toList) ∧
    ∀ (path other : String) (ref otherRef : Json) (session before : Session)
      (request otherRequest : HostRequest),
      ((host.fileContents repo path ref).runOn session).2.trace =
        session.trace ++ [.hostAsked request] →
      ((host.fileContents repo other otherRef).runOn before).2.trace =
        before.trace ++ [.hostAsked otherRequest] →
      request.url = otherRequest.url → path = other := by
  refine ⟨fun path ref session => ?_, fun path other ref otherRef session before request
    otherRequest asks asksOther same => ?_⟩
  · cases encoded : Utf8.unencodable? path.toList with
    | some fault => exact .inl ⟨fault, rfl, runOn_fileContents_of_unencodable encoded _ _ _ _⟩
    | none =>
      have escaped := Percent.isEscaped_encode path.toList
      refine .inr ⟨rfl, Percent.encode path.toList, ?_, escaped, escaped.not_mem.1,
        escaped.not_mem.2, Percent.decode_encode path.toList⟩
      rw [runOn_fileContents encoded, ← contentsPlace_eq]
      rfl
  · rw [eq_contentsRequest asks, eq_contentsRequest asksOther] at same
    exact eq_of_contentsPlace ((String.append_right_inj _).mp same)

/-- A blank in a name and the escape of one are asked for at two addresses. -/
theorem url_ne_of_blank_and_escape :
    let session := Session.ofReplies []
    let fetch (path : String) := exampleHost.fileContents (.str "o/r") path (.str "sha")
    ∃ request otherRequest : HostRequest,
      ((fetch "a b.ts").runOn session).2.trace = [.hostAsked request] ∧
      ((fetch "a%20b.ts").runOn session).2.trace = [.hostAsked otherRequest] ∧
      request.url ≠ otherRequest.url := by
  intro session fetch
  have asks : ((fetch "a b.ts").runOn session).2.trace =
      session.trace ++ [.hostAsked (exampleHost.contentsRequest (.str "o/r") "a b.ts" (.str "sha"))] := by
    rw [runOn_fileContents (by decide +kernel)]
    rfl
  have asksOther : ((fetch "a%20b.ts").runOn session).2.trace =
      session.trace ++
        [.hostAsked (exampleHost.contentsRequest (.str "o/r") "a%20b.ts" (.str "sha"))] := by
    rw [runOn_fileContents (by decide +kernel)]
    rfl
  refine ⟨_, _, asks, asksOther, fun same => ?_⟩
  have samePath := (runOn_fileContents_escaped exampleHost (.str "o/r")).2 _ _ _ _ _ _ _ _
    asks asksOther same
  exact absurd samePath (by decide)

end PatchReview.Host
