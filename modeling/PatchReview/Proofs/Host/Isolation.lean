import PatchReview.Proofs.Host.Listing
import PatchReview.Proofs.Host.Outcome

/-!
# Contents that do not come

A listing takes its replies in turn, those to its pages and those to the requests for
contents, up to an entry that fails (`Proceeds`). So it gives the same files with any
replies to the latter that do not break it off, each with the text of its own reply
(`runOn_changedFiles_isolated`).
-/

namespace PatchReview.Host

open PatchReview.Action (runOn_bind_ok runOn_bind_error)

variable {faultyLine : FaultyLine} {failure : Failure}

-- ---------------------------------------------------------------------------
-- Runs
-- ---------------------------------------------------------------------------

/-- An action that ends with a result when the host has these replies to these requests,
which it all takes if the result is no failure. -/
def Proceeds (faultyLine : FaultyLine) (exchange : List (HostRequest × HostReply))
    (x : Action Session α) (result : Except Failure α) : Prop :=
  ∀ session left, session.faultyLine = faultyLine →
    session.hostReplies = exchange.map Prod.snd ++ left →
    ∃ after, x.runOn session = (result, after) ∧
      (result.isOk → ∃ lines, after = session.served left (exchange.map Prod.fst) lines)

theorem Exchanges.proceeds {x : Action Session α} (h : Exchanges exchange x result) :
    Proceeds faultyLine exchange x result := by
  rintro session left - replies
  obtain ⟨lines, run⟩ := h session left replies
  exact ⟨_, run, fun _ => ⟨lines, rfl⟩⟩

namespace Proceeds

theorem bind {x : Action Session α} {f : α → Action Session β} {g : α → Except Failure β}
    (hx : Proceeds faultyLine first x found)
    (hf : ∀ a, found = .ok a → Proceeds faultyLine later (f a) (g a)) :
    Proceeds faultyLine (first ++ later) (x >>= f) (found.bind g) := by
  rintro session left faulty replies
  rw [List.map_append, List.append_assoc] at replies
  obtain ⟨after, run, takes⟩ := hx session _ faulty replies
  cases found with
  | error failure => exact ⟨after, runOn_bind_error run, nofun⟩
  | ok a =>
    obtain ⟨lines, rfl⟩ := takes rfl
    obtain ⟨afterAll, runLater, takesLater⟩ := hf a rfl
      (session.served (later.map Prod.snd ++ left) (first.map Prod.fst) lines) left faulty rfl
    refine ⟨afterAll, (runOn_bind_ok run).trans runLater, fun ends => ?_⟩
    obtain ⟨laterLines, rfl⟩ := takesLater ends
    exact ⟨lines ++ laterLines, by rw [Session.served_served, List.map_append]⟩

theorem ofExcept_bind {found : Except Failure α} {f : α → Action Session β}
    {g : α → Except Failure β}
    (hf : ∀ a, found = .ok a → Proceeds faultyLine exchange (f a) (g a)) :
    Proceeds faultyLine exchange (Action.ofExcept found >>= f) (found.bind g) :=
  (Exchanges.ofExcept found).proceeds.bind hf

theorem after {x : Action Session α} {f : α → Action Session β} {result : Except Failure β}
    (hx : Exchanges first x (.ok a)) (hf : Proceeds faultyLine later (f a) result) :
    Proceeds faultyLine (first ++ later) (x >>= f) result :=
  hx.proceeds.bind (g := fun _ => result) fun _ same => by cases same; exact hf

theorem after_ofExcept {found : Except Failure α} {f : α → Action Session β}
    {result : Except Failure β} (ok : found = .ok a)
    (hf : Proceeds faultyLine exchange (f a) result) :
    Proceeds faultyLine exchange (Action.ofExcept found >>= f) result := by
  rintro session left faulty replies
  rw [ok, runOn_bind_ok (Action.runOn_ofExcept _ _)]
  exact hf session left faulty replies

theorem map {x : Action Session α} (h : Proceeds faultyLine exchange x found) (g : α → β) :
    Proceeds faultyLine exchange (do let a ← x; return g a) (found.map g) := by
  have all := h.bind fun a _ => (Exchanges.pure (g a)).proceeds
  rw [List.append_nil] at all
  exact all

end Proceeds

theorem proceeds_contentsOrWarning (encodable : Utf8.unencodable? filename.toList = none)
    (host : Host) (repo ref : Json) (reply : HostReply) :
    Proceeds faultyLine [(host.contentsRequest repo filename ref, reply)]
      (host.contentsOrWarning repo filename ref)
      (tolerated (fetched (contentsPlace repo filename) reply)) := by
  rintro session left - replies
  have run := runOn_fileContents encodable host repo ref session
  rw [replies] at run
  change _ = (fetched (contentsPlace repo filename) reply, _) at run
  cases came : fetched (contentsPlace repo filename) reply with
  | ok found =>
    rw [came] at run
    rw [contentsOrWarning, runOn_bind_ok (Action.runOn_outcome _ _), run]
    exact ⟨_, rfl, fun _ => ⟨[], rfl⟩⟩
  | error failure =>
    rw [came] at run
    cases tolerates : isTolerated failure with
    | true =>
      rw [tolerated, tolerates, if_pos rfl, runOn_contentsOrWarning_of_tolerated run tolerates,
        Session.note_eq_served, Session.served_served]
      exact ⟨_, rfl, fun _ => ⟨_, rfl⟩⟩
    | false =>
      rw [tolerated, tolerates, if_neg Bool.false_ne_true, contentsOrWarning,
        runOn_bind_ok (Action.runOn_outcome _ _), run]
      simp only [tolerates, Bool.false_eq_true, if_false]
      exact ⟨_, rfl, fun ok => by cases ok⟩

theorem proceeds_infoOf (count : Except Failure String) (shown : String → String) :
    Proceeds faultyLine [] (do Session.infoOf (count.map shown); return none)
      (skipped faultyLine count) := by
  cases count with
  | ok count => cases faultyLine <;> exact ((Exchanges.info _).bind (.pure none)).proceeds
  | error failure =>
    rintro session left faulty replies
    have logs : (Session.infoOf (.error failure)).runOn session =
        if faultyLine = .raised then (.error failure, session) else (.ok (), session) := by
      rw [Session.infoOf, runOn_bind_ok (Action.runOn_get session), faulty]
      cases faultyLine <;> rfl
    cases faultyLine with
    | raised => exact ⟨session, runOn_bind_error logs, fun ok => by cases ok⟩
    | omitted =>
      refine ⟨session, runOn_bind_ok logs, fun _ => ⟨[], ?_⟩⟩
      rw [← show session.hostReplies = left from replies]
      exact session.served_nil.symm

theorem asked?_of_file (classified : classify entry = .ok (.file filename status patch)) :
    asked? entry =
      if status ≠ .removed ∧ Utf8.unencodable? filename.toList = none then some filename
      else none := by
  rw [asked?, classified]

theorem proceeds_contents (host : Host) (repo ref : Json) {item : Item}
    (classified : classify item.entry = .ok (.file filename status patch)) :
    Proceeds faultyLine (item.exchange host repo ref)
      (if status = .removed then pure none else host.contentsOrWarning repo filename ref)
      (item.contents repo) := by
  have asked := asked?_of_file classified
  by_cases removed : status = .removed
  · rw [if_neg (by simp [removed])] at asked
    rw [if_pos removed, Item.exchange, Item.contents, asked]
    exact (Exchanges.pure none).proceeds
  · rw [if_neg removed]
    cases encoded : Utf8.unencodable? filename.toList with
    | none =>
      rw [if_pos ⟨removed, encoded⟩] at asked
      rw [Item.exchange, Item.contents, asked]
      exact proceeds_contentsOrWarning encoded host repo ref item.reply
    | some fault =>
      rw [if_neg (by simp [encoded])] at asked
      rw [Item.exchange, Item.contents, asked]
      rintro session left - replies
      obtain ⟨lines, run⟩ := runOn_contentsOrWarning_of_unencodable encoded host repo ref session
      rw [show session.hostReplies = left from replies] at run
      exact ⟨_, run, fun _ => ⟨lines, rfl⟩⟩

theorem proceeds_listEntry (host : Host) (repo ref : Json) (item : Item) :
    Proceeds faultyLine (item.exchange host repo ref) (host.listEntry repo ref item.entry)
      (item.result faultyLine repo) := by
  refine .ofExcept_bind fun listed classified => ?_
  have nothing (unasked : asked? item.entry = none) : item.exchange host repo ref = [] := by
    simp [Item.exchange, unasked]
  cases listed with
  | tooLarge filename changes =>
    rw [nothing (by rw [asked?, classified])]
    exact proceeds_infoOf _ _
  | notAnalyzable =>
    rw [nothing (by rw [asked?, classified])]
    exact (Exchanges.pure none).proceeds
  | file filename status patch =>
    have contents : Proceeds faultyLine (item.exchange host repo ref) _ (item.contents repo) :=
      proceeds_contents host repo ref classified
    have both := contents.bind fun contents _ =>
      (Exchanges.ofExcept (changedFile filename status patch contents)).proceeds.map some
    rw [List.append_nil] at both
    dsimp only
    split
    · next removed => rwa [if_pos removed] at both
    · next kept => rwa [if_neg kept] at both

theorem proceeds_listEntries (host : Host) (repo ref : Json) (items : List Item) :
    Proceeds faultyLine (items.flatMap (·.exchange host repo ref))
      (host.listEntries repo ref (items.map Item.entry)) (results faultyLine repo items) := by
  induction items with
  | nil => exact (Exchanges.pure []).proceeds
  | cons item rest ih =>
    exact (proceeds_listEntry host repo ref item).bind fun first _ => ih.map _

-- ---------------------------------------------------------------------------
-- Pages
-- ---------------------------------------------------------------------------

/-- Whether a reply is a page with these entries. A page without any may be of any kind. -/
def IsSheet (entries : List Json) : HostReply → Prop
  | .http status _ body =>
    Http.isErrorStatus status = false ∧
      ∃ answer, Json.read body.toList = .ok answer ∧ pageEntries answer = .ok entries
  | .raised _ => False

/-- A page of a listing, with the replies to the requests for contents. -/
structure Sheet where
  items : List Item
  reply : HostReply
  sent : IsSheet (items.map Item.entry) reply

namespace Sheet

def exchange (host : Host) (repo number ref : Json) (page : Nat) (sheet : Sheet) :
    List (HostRequest × HostReply) :=
  (host.pageRequest repo number page, sheet.reply) ::
    sheet.items.flatMap (·.exchange host repo ref)

def exchangeFrom (host : Host) (repo number ref : Json) (page : Nat) :
    List Sheet → List (HostRequest × HostReply)
  | [] => []
  | sheet :: rest =>
    sheet.exchange host repo number ref page ++ exchangeFrom host repo number ref (page + 1) rest

end Sheet

/-- A listing as the host sends it: full pages and one that is not full. -/
structure Catalog where
  full : List Sheet
  areFull : ∀ sheet ∈ full, pageSize ≤ sheet.items.length
  last : Sheet
  isShort : last.items.length < pageSize

namespace Catalog

def sheets (catalog : Catalog) : List Sheet := catalog.full ++ [catalog.last]

def items (catalog : Catalog) : List Item := catalog.sheets.flatMap Sheet.items

def entries (catalog : Catalog) : List Json := catalog.items.map Item.entry

def listed (catalog : Catalog) : List Item := catalog.items.filter (isListed ·.entry)

def exchange (host : Host) (repo number ref : Json) (catalog : Catalog) :
    List (HostRequest × HostReply) :=
  Sheet.exchangeFrom host repo number ref 0 catalog.sheets

end Catalog

theorem body_of_isSheet (sent : IsSheet entries reply) (path : String) :
    ∃ answer, (bodyOf .get path reply).bind jsonBody = .ok answer ∧
      pageEntries answer = .ok entries := by
  cases reply with
  | raised failure => cases sent
  | http status reason body =>
    obtain ⟨fine, answer, read, holds⟩ := sent
    refine ⟨answer, ?_, holds⟩
    rw [bodyOf, fine, if_neg Bool.false_ne_true]
    exact jsonBody_eq_ok read

theorem proceeds_sheet (host : Host) (repo number ref : Json) (sheet : Sheet) (page left : Nat)
    {g : List ChangedFile → Except Failure (List ChangedFile)}
    (goesOn : ∀ files, Proceeds faultyLine later
      (if sheet.items.length < pageSize then return files
        else do
          let others ← host.listPages repo number ref (page + 2) left
          return files ++ others) (g files)) :
    Proceeds faultyLine (sheet.exchange host repo number ref page ++ later)
      (host.listPages repo number ref (page + 1) (left + 1))
      ((results faultyLine repo sheet.items).bind g) := by
  have asked := Exchanges.request host (filesPath repo number)
    (some [("per_page", .int pageSize), ("page", .int (page + 1 : Nat))]) sheet.reply
  obtain ⟨answer, came, holds⟩ := body_of_isSheet sheet.sent (filesPath repo number)
  rw [came] at asked
  have listing := (proceeds_listEntries host repo ref sheet.items).bind fun files _ => goesOn files
  rw [Sheet.exchange, ← List.singleton_append, List.append_assoc]
  refine .after asked (.after_ofExcept holds ?_)
  rw [List.length_map]
  exact listing

theorem proceeds_lastSheet (host : Host) (repo number ref : Json) {sheet : Sheet}
    (short : sheet.items.length < pageSize) (page left : Nat) :
    Proceeds faultyLine (sheet.exchange host repo number ref page)
      (host.listPages repo number ref (page + 1) (left + 1))
      (results faultyLine repo sheet.items) := by
  have ends (files : List ChangedFile) : Proceeds faultyLine []
      (if sheet.items.length < pageSize then return files
        else do
          let others ← host.listPages repo number ref (page + 2) left
          return files ++ others) (.ok files) := by
    rw [if_pos short]
    exact (Exchanges.pure files).proceeds
  have all := proceeds_sheet host repo number ref sheet page left ends
  rw [List.append_nil] at all
  have same : (results faultyLine repo sheet.items).bind .ok =
      results faultyLine repo sheet.items := by
    cases results faultyLine repo sheet.items <;> rfl
  rwa [same] at all

theorem proceeds_fullSheet (host : Host) (repo number ref : Json) {sheet : Sheet}
    (full : pageSize ≤ sheet.items.length) (page left : Nat)
    (others : Proceeds faultyLine later (host.listPages repo number ref (page + 2) left)
      (results faultyLine repo items)) :
    Proceeds faultyLine (sheet.exchange host repo number ref page ++ later)
      (host.listPages repo number ref (page + 1) (left + 1))
      (results faultyLine repo (sheet.items ++ items)) := by
  rw [results_append]
  refine proceeds_sheet host repo number ref sheet page left fun files => ?_
  rw [if_neg (by omega)]
  exact others.map (files ++ ·)

theorem proceeds_sheets (host : Host) (repo number ref : Json) {sheets : List Sheet} {last : Sheet}
    (full : ∀ sheet ∈ sheets, pageSize ≤ sheet.items.length)
    (short : last.items.length < pageSize) (page left : Nat) :
    Proceeds faultyLine (Sheet.exchangeFrom host repo number ref page (sheets ++ [last]))
      (host.listPages repo number ref (page + 1) (left + 1 + sheets.length))
      (results faultyLine repo ((sheets ++ [last]).flatMap Sheet.items)) := by
  induction sheets generalizing page with
  | nil =>
    have all : Proceeds faultyLine (last.exchange host repo number ref page) _ _ :=
      proceeds_lastSheet host repo number ref short page left
    simpa [Sheet.exchangeFrom] using all
  | cons sheet rest ih =>
    rw [List.forall_mem_cons] at full
    exact proceeds_fullSheet host repo number ref full.1 page _ (ih full.2 (page + 1))

theorem Sheet.length_le_exchangeFrom (host : Host) (repo number ref : Json) (page : Nat)
    (sheets : List Sheet) :
    sheets.length ≤ (exchangeFrom host repo number ref page sheets).length := by
  induction sheets generalizing page with
  | nil => exact Nat.zero_le _
  | cons sheet rest ih =>
    have := ih (page + 1)
    simp only [exchangeFrom, exchange, List.length_cons, List.length_append]
    omega

theorem Catalog.proceeds_changedFiles (catalog : Catalog) (host : Host) (repo number ref : Json) :
    Proceeds faultyLine (catalog.exchange host repo number ref)
      (host.changedFiles repo number ref) (results faultyLine repo catalog.items) := by
  rintro session left faulty replies
  -- The bound on the pages is the number of replies, and every page takes one of them.
  obtain ⟨extra, enough⟩ :
      ∃ extra, session.hostReplies.length + 1 = extra + 1 + catalog.full.length := by
    have enough := Sheet.length_le_exchangeFrom host repo number ref 0 catalog.sheets
    have all := congrArg List.length replies
    simp only [exchange, sheets, List.length_append, List.length_map, List.length_singleton]
      at enough all
    exact ⟨session.hostReplies.length - catalog.full.length, by omega⟩
  rw [Listing.runOn_changedFiles_eq, enough]
  exact proceeds_sheets host repo number ref catalog.areFull catalog.isShort 0 extra session left
    faulty replies

/-- A listing that comes with some replies comes with any others, unless one of them
breaks off. The files differ in nothing but their contents, which are the texts of their
own replies; so a file whose own reply is the same is the same. -/
theorem runOn_changedFiles_isolated {catalog reference : Catalog}
    (same : catalog.entries = reference.entries)
    (heard : ∀ item ∈ catalog.items, IsHeard item.reply)
    {host : Host} {repo number ref : Json} {session before : Session}
    (faulty : session.faultyLine = before.faultyLine)
    (replies : session.hostReplies =
      (catalog.exchange host repo number ref).map Prod.snd ++ left)
    (given : before.hostReplies =
      (reference.exchange host repo number ref).map Prod.snd ++ others)
    (comes : (host.changedFiles repo number ref).runOn before = (.ok whole, after)) :
    whole.map (·.contents) = reference.listed.map Item.text ∧
      ((∀ item ∈ catalog.items, ∀ failure, ¬ item.Breaks failure) →
        ∃ files lines,
          (host.changedFiles repo number ref).runOn session =
            (.ok files, session.served left
              ((catalog.exchange host repo number ref).map Prod.fst) lines) ∧
          files.map described = whole.map described ∧
          files.map (·.contents) = catalog.listed.map Item.text ∧
          ∀ n : Nat, (catalog.listed[n]?).map Item.reply = (reference.listed[n]?).map Item.reply →
            files[n]? = whole[n]?) ∧
      ((∃ item ∈ catalog.items, ∃ failure, item.Breaks failure) →
        ∃ item ∈ catalog.items, ∃ failure after, item.Breaks failure ∧
          (host.changedFiles repo number ref).runOn session = (.error failure, after)) := by
  obtain ⟨_, ran, -⟩ := reference.proceeds_changedFiles host repo number ref before others rfl given
  have results := congrArg Prod.fst (ran.symm.trans comes)
  obtain ⟨ends, run, takes⟩ :=
    catalog.proceeds_changedFiles host repo number ref session left faulty replies
  refine ⟨contents_of_results results, fun goesOn => ?_, fun breaks => ?_⟩
  · obtain ⟨item, among, failure, breaks, -⟩ | ⟨-, files, came, alike⟩ :=
      results_of_same_entries same results heard
    · exact absurd breaks (goesOn item among failure)
    · rw [came] at run takes
      obtain ⟨lines, rfl⟩ := takes rfl
      refine ⟨files, lines, run, alike, contents_of_results came, fun n reply => ?_⟩
      refine getElem?_eq_of_described alike ?_
      rw [contents_of_results came, contents_of_results results, List.getElem?_map,
        List.getElem?_map]
      exact congrArg (Option.map Item.text) (getElem?_eq_of_reply (listed_entries same) reply)
  · obtain ⟨item, among, failure, breaks, failed⟩ | ⟨goesOn, -⟩ :=
      results_of_same_entries same results heard
    · rw [failed] at run
      exact ⟨item, among, failure, ends, breaks, run⟩
    · obtain ⟨item, among, failure, breaks⟩ := breaks
      exact absurd breaks (goesOn item among failure)

-- ---------------------------------------------------------------------------
-- A page of two files
-- ---------------------------------------------------------------------------

theorem read_pair :
    Json.read "[\x7b\"filename\": \"a.ts\"\x7d, \x7b\"filename\": \"b.ts\"\x7d]".toList =
      .ok (.arr [.obj [("filename", .str "a.ts")], .obj [("filename", .str "b.ts")]]) := by
  decide +kernel

def Catalog.pair (first second : HostReply) : Catalog where
  full := []
  areFull := nofun
  last :=
    { items := [⟨.obj [("filename", .str "a.ts")], first⟩, ⟨.obj [("filename", .str "b.ts")], second⟩]
      reply := .http 200 none "[\x7b\"filename\": \"a.ts\"\x7d, \x7b\"filename\": \"b.ts\"\x7d]"
      sent := ⟨rfl, _, read_pair, rfl⟩ }
  isShort := show 2 < pageSize by decide

def pairSession (first second : HostReply) : Session :=
  { Session.ofReplies [] with
    hostReplies := [(Catalog.pair first second).last.reply, first, second] }

theorem replies_pair (first second : HostReply) :
    (pairSession first second).hostReplies =
      ((Catalog.pair first second).exchange exampleHost (.str "o/r") (.int 1) (.str "sha")).map
        Prod.snd ++ [] := by
  have askedFirst : asked? (.obj [("filename", .str "a.ts")]) = some "a.ts" := by decide +kernel
  have askedSecond : asked? (.obj [("filename", .str "b.ts")]) = some "b.ts" := by decide +kernel
  simp [Catalog.exchange, Catalog.sheets, Catalog.pair, Sheet.exchangeFrom, Sheet.exchange,
    Item.exchange, askedFirst, askedSecond, pairSession]

def sentReply : HostReply := .http 200 none "\x7b\"content\": \"YQ==\"\x7d"

def numberReply : HostReply := .http 200 none "\x7b\"content\": 5\x7d"

theorem read_number :
    Json.read "\x7b\"content\": 5\x7d".toList = .ok (.obj [("content", .int 5)]) := by
  decide +kernel

theorem results_pair :
    results .omitted (.str "o/r") (Catalog.pair sentReply sentReply).items =
      .ok [⟨"a.ts", .modified, none, some "a"⟩, ⟨"b.ts", .modified, none, some "a"⟩] := by
  decide +kernel

theorem run_pair (first second : HostReply) :
    ∃ after,
      (exampleHost.changedFiles (.str "o/r") (.int 1) (.str "sha")).runOn (pairSession first second) =
        (results .omitted (.str "o/r") (Catalog.pair first second).items, after) := by
  obtain ⟨after, run, -⟩ := (Catalog.pair first second).proceeds_changedFiles exampleHost
    (.str "o/r") (.int 1) (.str "sha") (pairSession first second) [] rfl (replies_pair first second)
  exact ⟨after, run⟩

theorem forall_mem_pair {P : Item → Prop} {first second : HostReply}
    (hf : P ⟨.obj [("filename", .str "a.ts")], first⟩)
    (hs : P ⟨.obj [("filename", .str "b.ts")], second⟩) :
    ∀ item ∈ (Catalog.pair first second).items, P item :=
  List.forall_mem_cons.mpr ⟨hf, List.forall_mem_cons.mpr ⟨hs, List.forall_mem_nil P⟩⟩

theorem breaksOff_number : BreaksOff numberReply .wrongKind :=
  .noText rfl read_number rfl rfl fun _ same => by cases same

theorem not_breaksOff_sent : ¬ BreaksOff sentReply failure := by
  rintro (⟨_, read⟩ | ⟨_, read, held, _, other⟩)
  · cases read_content.symm.trans read
  · cases read_content.symm.trans read
    cases held
    exact other "YQ==" rfl

theorem not_breaksOff_refused (h : Http.isErrorStatus status = true) :
    ¬ BreaksOff (.http status reason body) failure := by
  rintro (⟨fine, _⟩ | ⟨fine, _, _, _, _⟩) <;> simp [h] at fine

/-- One file is refused, and the other one comes with its contents. With an answer that
breaks off there is no listing. -/
theorem runOn_changedFiles_isolated_pair :
    let list := exampleHost.changedFiles (.str "o/r") (.int 1) (.str "sha")
    (∃ files after,
      list.runOn (pairSession (.http 500 none "") sentReply) = (.ok files, after) ∧
        files.map described = [("a.ts", .modified, none), ("b.ts", .modified, none)] ∧
        files.map (·.contents) = [none, some "a"]) ∧
    ∃ failure after, list.runOn (pairSession numberReply sentReply) = (.error failure, after) := by
  intro list
  obtain ⟨after, comes⟩ := run_pair sentReply sentReply
  rw [results_pair] at comes
  have given := replies_pair sentReply sentReply
  constructor
  · obtain ⟨-, isolated, -⟩ := runOn_changedFiles_isolated (by rfl)
      (forall_mem_pair .answered .answered) (by rfl)
      (replies_pair (.http 500 none "") sentReply) given comes
    obtain ⟨files, lines, run, alike, contents, -⟩ := isolated <| forall_mem_pair
      (fun _ breaks => not_breaksOff_refused rfl breaks.2) (fun _ breaks => not_breaksOff_sent breaks.2)
    exact ⟨files, _, run, alike, contents.trans (by decide +kernel)⟩
  · obtain ⟨-, -, ends⟩ := runOn_changedFiles_isolated (by rfl)
      (forall_mem_pair .answered .answered) (by rfl) (replies_pair numberReply sentReply) given comes
    obtain ⟨_, -, failure, after, -, run⟩ :=
      ends ⟨_, List.mem_cons_self, .wrongKind, by decide +kernel, breaksOff_number⟩
    exact ⟨failure, after, run⟩

/-- A reply to a request for contents may end a listing that comes when every fetch
succeeds. -/
theorem exists_reply_that_ends_listing :
    ¬ ∀ (catalog reference : Catalog) (host : Host) (repo number ref : Json)
        (session before : Session) (whole : List ChangedFile),
      catalog.entries = reference.entries → (∀ item ∈ catalog.items, IsHeard item.reply) →
      (∀ item ∈ reference.items, (heldText item.reply).isSome) →
      session.faultyLine = before.faultyLine →
      session.hostReplies = (catalog.exchange host repo number ref).map Prod.snd →
      before.hostReplies = (reference.exchange host repo number ref).map Prod.snd →
      ((host.changedFiles repo number ref).runOn before).1 = .ok whole →
      ∃ files, ((host.changedFiles repo number ref).runOn session).1 = .ok files ∧
        files.map described = whole.map described := by
  intro claim
  obtain ⟨after, comes⟩ := run_pair sentReply sentReply
  obtain ⟨ends, fails⟩ := run_pair numberReply sentReply
  have failed : results .omitted (.str "o/r") (Catalog.pair numberReply sentReply).items =
      .error .wrongKind := by decide +kernel
  rw [results_pair] at comes
  rw [failed] at fails
  obtain ⟨files, came, -⟩ := claim (.pair numberReply sentReply) (.pair sentReply sentReply)
    exampleHost (.str "o/r") (.int 1) (.str "sha") (pairSession numberReply sentReply)
    (pairSession sentReply sentReply) _ rfl (forall_mem_pair .answered .answered)
    (forall_mem_pair (by decide +kernel) (by decide +kernel)) rfl
    ((replies_pair numberReply sentReply).trans (List.append_nil _))
    ((replies_pair sentReply sentReply).trans (List.append_nil _)) (congrArg Prod.fst comes)
  rw [fails] at came
  cases came

end PatchReview.Host
