import PatchReview.Proofs.Host.Entries
import PatchReview.Proofs.Json.Equality

/-!
# Listings

A host that sends the entries of a pull request in full pages of a hundred and
a last one that is not full. `exchange` is what a listing asks and is answered:
each page, and after it the contents of those of its entries that are listed,
were not removed and have a name that can be encoded. A listing asks exactly
this and gives the listed entries in their order; it fails at the first page
that it does not get (`runOn_changedFiles`).
-/

namespace PatchReview.Host

open PatchReview.Action (runOn_bind_ok)

-- ---------------------------------------------------------------------------
-- Pages
-- ---------------------------------------------------------------------------

/-- The entries of a page, counted from zero. -/
def window (entries : List Entry) (page : Nat) : List Entry :=
  (entries.drop (100 * page)).take 100

def IsPage (entries : List Json) : HostReply → Prop
  | .http status _ body =>
    Http.isErrorStatus status = false ∧ Json.read body.toList = .ok (.arr entries)
  | .raised _ => False

inductive IsFailure : HostReply → Prop
  | refused (h : Http.isErrorStatus status = true) : IsFailure (.http status reason body)
  | lost : IsFailure (.raised (.request kind detail))

/-- The request for a page, counted from zero; the host counts from one. -/
def pageRequest (host : Host) (repo number : Json) (page : Nat) : HostRequest :=
  ⟨.get, host.apiUrl ++ s!"/repos/{repo.display}/pulls/{number.display}/files",
    some [("per_page", .int 100), ("page", .int (page + 1 : Nat))], none, host.headers, timeout⟩

/-- A listing as the host sends it: the reply to each page holds its entries. -/
structure Listing where
  entries : List Entry
  pageReply : Nat → HostReply
  paged : ∀ page, IsPage ((window entries page).map Entry.json) (pageReply page)

namespace Listing

variable (listing : Listing) (host : Host) (repo number ref : Json)

/-- How many pages are asked for: all full ones and the one after them. -/
def pages : Nat := listing.entries.length / 100 + 1

def pageExchange (page : Nat) : List (HostRequest × HostReply) :=
  (host.pageRequest repo number page, listing.pageReply page) ::
    host.contentsExchange repo ref (window listing.entries page)

def exchange (pages : Nat) : List (HostRequest × HostReply) :=
  (List.range pages).flatMap (listing.pageExchange host repo number ref)

end Listing

theorem pageSize_eq : pageSize = 100 := rfl

theorem length_window (entries : List Entry) (page : Nat) :
    (window entries page).length = min 100 (entries.length - 100 * page) := by
  simp [window]

theorem flatMap_window (entries : List Entry) (pages : Nat) :
    (List.range pages).flatMap (window entries) = entries.take (100 * pages) := by
  induction pages with
  | zero => simp
  | succ pages ih =>
    rw [List.range_succ, List.flatMap_append, ih, Nat.mul_succ, List.take_add]
    simp [window]

theorem body_of_isPage (sent : IsPage entries reply) (path : String) :
    (bodyOf .get path reply).bind jsonBody = .ok (.arr entries) := by
  cases reply with
  | raised failure => cases sent
  | http status reason body =>
    rw [bodyOf, sent.1, if_neg Bool.false_ne_true]
    exact jsonBody_eq_ok sent.2

theorem pageEntries_arr (entries : List Json) : pageEntries (.arr entries) = .ok entries := by
  cases entries <;> rfl

theorem body_of_isFailure (failed : IsFailure reply) (path : String) :
    ∃ fault, (bodyOf .get path reply).bind jsonBody = .error (.host fault) := by
  cases failed with
  | @refused status reason body h =>
    refine ⟨.refused status reason .get path, ?_⟩
    rw [bodyOf, h, if_pos rfl]
    rfl
  | lost => exact ⟨_, rfl⟩

section

variable {entries : List Entry} {reply : HostReply}

theorem exchanges_page (sent : IsPage (entries.map Entry.json) reply) (host : Host)
    (repo number ref : Json) (page left : Nat)
    (after : Exchanges later
      (if entries.length < 100 then return filesOf entries
        else do
          let others ← host.listPages repo number ref (page + 2) left
          return filesOf entries ++ others) result) :
    Exchanges ((host.pageRequest repo number page, reply) ::
        host.contentsExchange repo ref entries ++ later)
      (host.listPages repo number ref (page + 1) (left + 1)) result := by
  have asked := Exchanges.request host (filesPath repo number)
    (some [("per_page", .int 100), ("page", .int (page + 1 : Nat))]) reply
  rw [body_of_isPage sent] at asked
  refine asked.bind (.ofExcept_bind (pageEntries_arr _) ?_)
  refine (exchanges_listEntries host repo ref entries).bind ?_
  rw [List.length_map, pageSize_eq]
  exact after

theorem exchanges_lastPage (sent : IsPage (entries.map Entry.json) reply)
    (short : entries.length < 100) (host : Host) (repo number ref : Json) (page left : Nat) :
    Exchanges ((host.pageRequest repo number page, reply) :: host.contentsExchange repo ref entries)
      (host.listPages repo number ref (page + 1) (left + 1)) (.ok (filesOf entries)) := by
  have all := exchanges_page sent host repo number ref page left
    (by rw [if_pos short]; exact .pure (filesOf entries))
  rwa [List.append_nil] at all

theorem exchanges_fullPage (sent : IsPage (entries.map Entry.json) reply)
    (full : entries.length = 100) (host : Host) (repo number ref : Json) (page left : Nat)
    (others : Exchanges later (host.listPages repo number ref (page + 2) left) result) :
    Exchanges ((host.pageRequest repo number page, reply) ::
        host.contentsExchange repo ref entries ++ later)
      (host.listPages repo number ref (page + 1) (left + 1))
      (result.map (filesOf entries ++ ·)) := by
  refine exchanges_page sent host repo number ref page left ?_
  rw [if_neg (by omega)]
  exact others.map _

theorem exchanges_failedPage (failed : IsFailure reply) (host : Host) (repo number ref : Json)
    (page left : Nat) :
    ∃ fault, Exchanges [(host.pageRequest repo number page, reply)]
      (host.listPages repo number ref (page + 1) (left + 1)) (.error (.host fault)) := by
  have asked := Exchanges.request host (filesPath repo number)
    (some [("per_page", .int 100), ("page", .int (page + 1 : Nat))]) reply
  obtain ⟨fault, ends⟩ := body_of_isFailure failed (filesPath repo number)
  rw [ends] at asked
  exact ⟨fault, asked.bind_error⟩

end

-- ---------------------------------------------------------------------------
-- Whole listings
-- ---------------------------------------------------------------------------

namespace Listing

variable (listing : Listing) (host : Host) (repo number ref : Json)

theorem exchanges_fullPages (count : Nat) (page left : Nat)
    (full : 100 * (page + count) ≤ listing.entries.length)
    (others : Exchanges later (host.listPages repo number ref (page + count + 1) left) result) :
    Exchanges
      ((List.range' page count).flatMap (listing.pageExchange host repo number ref) ++ later)
      (host.listPages repo number ref (page + 1) (left + count))
      (result.map ((List.range' page count).flatMap (filesOf ∘ window listing.entries) ++ ·)) := by
  induction count generalizing page with
  | zero =>
    have same : result.map (([] : List ChangedFile) ++ ·) = result := by cases result <;> rfl
    rw [List.range'_zero, List.flatMap_nil, List.flatMap_nil, List.nil_append, same]
    exact others
  | succ count ih =>
    have whole : (window listing.entries page).length = 100 := by
      rw [length_window]
      omega
    have step : page + (count + 1) = page + 1 + count := by omega
    rw [step] at full others
    have all := exchanges_fullPage (listing.paged page) whole host repo number ref page
      (left + count) (ih (page + 1) full others)
    have joined : (result.map ((List.range' (page + 1) count).flatMap
          (filesOf ∘ window listing.entries) ++ ·)).map (filesOf (window listing.entries page) ++ ·) =
        result.map ((List.range' page (count + 1)).flatMap
          (filesOf ∘ window listing.entries) ++ ·) := by
      cases result with
      | ok files => simp [List.range'_succ, Except.map]
      | error failure => rfl
    rw [joined] at all
    rw [List.range'_succ, List.flatMap_cons, List.append_assoc]
    exact all

theorem filesOf_windows :
    (List.range listing.pages).flatMap (filesOf ∘ window listing.entries) =
      filesOf listing.entries := by
  have covered : listing.entries.length ≤ 100 * listing.pages := by
    rw [pages]
    omega
  have all := flatMap_window listing.entries listing.pages
  rw [List.take_of_length_le covered] at all
  conv => rhs; rw [← all]
  rw [filesOf, List.filter_flatMap, List.map_flatMap]
  rfl

theorem fullPages_le : 100 * (listing.entries.length / 100) ≤ listing.entries.length :=
  Nat.mul_div_le _ _

theorem exchanges_listPages (left : Nat) :
    Exchanges (listing.exchange host repo number ref listing.pages)
      (host.listPages repo number ref 1 (left + listing.pages)) (.ok (filesOf listing.entries)) := by
  obtain ⟨count, counted⟩ : ∃ count, listing.entries.length / 100 = count := ⟨_, rfl⟩
  have pages : listing.pages = count + 1 := by rw [Listing.pages, counted]
  have full := listing.fullPages_le
  rw [counted] at full
  have short : (window listing.entries count).length < 100 := by
    rw [length_window]
    omega
  have last := exchanges_lastPage (listing.paged count) short host repo number ref count left
  rw [show count = 0 + count by omega] at full
  have all := listing.exchanges_fullPages host repo number ref count 0 (left + 1) full
    (by rwa [Nat.zero_add])
  rw [← listing.filesOf_windows, exchange, pages, List.range_eq_range', List.range'_1_concat,
    List.flatMap_append, List.flatMap_append, List.flatMap_singleton, List.flatMap_singleton,
    Nat.zero_add, ← Nat.add_assoc, Nat.add_right_comm]
  exact all

theorem exchanges_listPages_of_failed (failed : IsFailure reply) (reached : page < listing.pages)
    (left : Nat) :
    ∃ fault, Exchanges (listing.exchange host repo number ref page ++
        [(host.pageRequest repo number page, reply)])
      (host.listPages repo number ref 1 (left + 1 + page)) (.error (.host fault)) := by
  have full : 100 * (0 + page) ≤ listing.entries.length := by
    rw [Nat.zero_add]
    exact Nat.le_trans (Nat.mul_le_mul_left _ (Nat.le_of_lt_succ reached)) listing.fullPages_le
  obtain ⟨fault, ends⟩ := exchanges_failedPage failed host repo number ref page left
  rw [← Nat.zero_add page] at ends
  refine ⟨fault, ?_⟩
  rw [exchange, List.range_eq_range']
  have all := listing.exchanges_fullPages host repo number ref page 0 (left + 1) full ends
  rwa [Nat.zero_add] at all

/-- Every page takes a reply, so there are replies for as many pages as come. -/
theorem le_length_exchange (pages : Nat) :
    pages ≤ (listing.exchange host repo number ref pages).length := by
  induction pages with
  | zero => exact Nat.zero_le _
  | succ pages ih =>
    have last : exchange listing host repo number ref (pages + 1) =
        exchange listing host repo number ref pages ++
          listing.pageExchange host repo number ref pages := by
      simp [exchange, List.range_succ]
    rw [last, List.length_append, pageExchange, List.length_cons]
    omega

theorem runOn_changedFiles_eq (session : Session) :
    (host.changedFiles repo number ref).runOn session =
      (host.listPages repo number ref 1 (session.hostReplies.length + 1)).runOn session := by
  rw [changedFiles, runOn_bind_ok (Action.runOn_get session)]

/-- A listing whose pages all come goes through its exchange, however many
replies are left. -/
theorem exchanges_changedFiles :
    Exchanges (listing.exchange host repo number ref listing.pages)
      (host.changedFiles repo number ref) (.ok (filesOf listing.entries)) := by
  intro session left replies
  obtain ⟨extra, enough⟩ : ∃ extra, session.hostReplies.length + 1 = extra + listing.pages := by
    have := listing.le_length_exchange host repo number ref listing.pages
    rw [replies, List.length_append, List.length_map]
    exact ⟨_, (Nat.sub_add_cancel (by omega)).symm⟩
  rw [runOn_changedFiles_eq, enough]
  exact listing.exchanges_listPages host repo number ref extra session left replies

/-- A listing whose pages all come asks for them in turn, up to the one that is
not full, and gives the listed entries. If a page does not come, the listing
fails there. -/
theorem runOn_changedFiles (session : Session) (left : List HostReply) :
    (session.hostReplies =
        (listing.exchange host repo number ref listing.pages).map Prod.snd ++ left →
      ∃ lines, (host.changedFiles repo number ref).runOn session =
        (.ok (filesOf listing.entries), session.served left
          ((listing.exchange host repo number ref listing.pages).map Prod.fst) lines)) ∧
    ∀ page reply, page < listing.pages → IsFailure reply →
      session.hostReplies =
        (listing.exchange host repo number ref page).map Prod.snd ++ reply :: left →
      ∃ fault lines, (host.changedFiles repo number ref).runOn session =
        (.error (.host fault), session.served left
          ((listing.exchange host repo number ref page).map Prod.fst ++
            [host.pageRequest repo number page]) lines) := by
  constructor
  · exact listing.exchanges_changedFiles host repo number ref session left
  · intro page reply reached failed replies
    obtain ⟨extra, enough⟩ : ∃ extra, session.hostReplies.length + 1 = extra + 1 + page := by
      have := listing.le_length_exchange host repo number ref page
      rw [replies, List.length_append, List.length_map, List.length_cons]
      exact ⟨(listing.exchange host repo number ref page).length - page + left.length + 1, by omega⟩
    obtain ⟨fault, ends⟩ :=
      listing.exchanges_listPages_of_failed host repo number ref failed reached extra
    obtain ⟨lines, run⟩ := ends session left (by simp [replies])
    rw [List.map_append] at run
    rw [runOn_changedFiles_eq, enough]
    exact ⟨fault, lines, run⟩

end Listing

-- ---------------------------------------------------------------------------
-- Listings of one page
-- ---------------------------------------------------------------------------

theorem read_content :
    Json.read "\x7b\"content\": \"YQ==\"\x7d".toList = .ok (.obj [("content", .str "YQ==")]) := by
  decide +kernel

def namedEntry (filename : String) : Entry where
  fields := [("filename", .str filename)]
  filename := filename
  named := rfl
  changes := none
  counted := rfl
  patch := none
  patched := rfl
  reply := .http 200 none "\x7b\"content\": \"YQ==\"\x7d"
  contents := some "a"
  answered := .sent rfl read_content (by decide +kernel)

theorem read_noEntries : Json.read "[]".toList = .ok (.arr []) := by decide +kernel

theorem window_zero {entries : List Entry} (few : entries.length < 100) :
    window entries 0 = entries := by
  rw [window, Nat.mul_zero, List.drop_zero, List.take_of_length_le (Nat.le_of_lt few)]

def Listing.onePage (entries : List Entry) {body : String} (few : entries.length < 100)
    (read : Json.read body.toList = .ok (.arr (entries.map Entry.json))) : Listing where
  entries := entries
  pageReply
    | 0 => .http 200 none body
    | _ + 1 => .http 200 none "[]"
  paged
    | 0 => by
      rw [window_zero few]
      exact ⟨rfl, read⟩
    | page + 1 => by
      rw [window, List.drop_of_length_le (by omega), List.take_nil]
      exact ⟨rfl, read_noEntries⟩

theorem exchange_onePage {body : String} (few : entries.length < 100)
    (read : Json.read body.toList = .ok (.arr (entries.map Entry.json))) (host : Host)
    (repo number ref : Json) :
    let listing := Listing.onePage entries few read
    listing.exchange host repo number ref listing.pages =
      (host.pageRequest repo number 0, .http 200 none body) ::
        host.contentsExchange repo ref entries := by
  intro listing
  have one : listing.pages = 1 := congrArg Nat.succ (Nat.div_eq_of_lt few)
  have first : window listing.entries 0 = entries := window_zero few
  rw [one, Listing.exchange, List.range_one, List.flatMap_singleton, Listing.pageExchange, first]
  rfl

def statedEntry (filename status : String) : Entry :=
  { namedEntry filename with
    fields := [("filename", .str filename), ("status", .str status)]
    named := rfl
    counted := rfl
    patched := rfl }

/-- An entry that was added, one that was removed, one that was renamed, and one
that is no file to analyze. -/
def mixedEntries : List Entry :=
  [statedEntry "a.css" "added", statedEntry "b.ts" "removed", statedEntry "c.js" "renamed",
    statedEntry "d.md" "added"]

theorem read_mixed :
    Json.read ("[\x7b\"filename\":\"a.css\",\"status\":\"added\"\x7d," ++
      "\x7b\"filename\":\"b.ts\",\"status\":\"removed\"\x7d," ++
      "\x7b\"filename\":\"c.js\",\"status\":\"renamed\"\x7d," ++
      "\x7b\"filename\":\"d.md\",\"status\":\"added\"\x7d]").toList =
    .ok (.arr (mixedEntries.map Entry.json)) := by
  decide +kernel

def mixedListing : Listing := .onePage mixedEntries (by decide) read_mixed

def exampleHost : Host := .make "token" Host.defaultApiUrl

/-- The contents of the file that was removed are not asked for, and the entry of
another kind is left out. A page that is refused ends the listing. -/
theorem runOn_changedFiles_mixed :
    let list := exampleHost.changedFiles (.str "o/r") (.int 1) (.str "sha")
    let session := Session.ofReplies []
    let page := exampleHost.pageRequest (.str "o/r") (.int 1) 0
    let contents := fun path => exampleHost.contentsRequest (.str "o/r") path (.str "sha")
    let sent : HostReply := .http 200 none "\x7b\"content\": \"YQ==\"\x7d"
    (∃ lines, list.runOn { session with
        hostReplies := [mixedListing.pageReply 0, sent, sent] } =
      (.ok [⟨"a.css", .added, none, some "a"⟩, ⟨"b.ts", .removed, none, none⟩,
          ⟨"c.js", .modified, none, some "a"⟩],
        session.served [] [page, contents "a.css", contents "c.js"] lines)) ∧
    ∃ fault lines, list.runOn { session with hostReplies := [.http 500 none ""] } =
      (.error (.host fault), session.served [] [page] lines) := by
  intro list session page contents sent
  have asked : mixedEntries.filter Entry.isAsked =
      [statedEntry "a.css" "added", statedEntry "c.js" "renamed"] := by rfl
  have exchanged := exchange_onePage (by decide) read_mixed exampleHost (.str "o/r") (.int 1)
    (.str "sha")
  rw [contentsExchange, asked] at exchanged
  constructor
  · obtain ⟨lines, run⟩ := (mixedListing.runOn_changedFiles exampleHost (.str "o/r") (.int 1)
      (.str "sha") { session with hostReplies := [mixedListing.pageReply 0, sent, sent] } []).1
      (by rw [mixedListing, exchanged]; rfl)
    rw [mixedListing, exchanged] at run
    exact ⟨lines, run⟩
  · exact (mixedListing.runOn_changedFiles exampleHost (.str "o/r") (.int 1) (.str "sha")
      { session with hostReplies := [.http 500 none ""] } []).2 0 _ (by decide) (.refused rfl) rfl

def strayName : String := String.ofList [Text.standIn 0xD800, '.', 't', 's']

theorem read_stray : Json.read "[\x7b\"filename\": \"\\ud800.ts\"\x7d]".toList =
    .ok (.arr [.obj [("filename", .str strayName)]]) := by decide +kernel

def strayListing : Listing := .onePage [namedEntry strayName] (by decide) read_stray

theorem listed_stray : (namedEntry strayName).isListed = true := by decide +kernel

theorem exchange_stray (host : Host) (repo number ref : Json) :
    strayListing.exchange host repo number ref strayListing.pages =
      [(host.pageRequest repo number 0, strayListing.pageReply 0)] := by
  have notAsked : (namedEntry strayName).isAsked = false := by decide +kernel
  have exchanged := exchange_onePage (show [namedEntry strayName].length < 100 by decide)
    read_stray host repo number ref
  rw [contentsExchange_singleton, notAsked] at exchanged
  exact exchanged

theorem contentsRequest_ne_pageRequest (host : Host) (repo number ref : Json) (path : String)
    (page : Nat) : host.contentsRequest repo path ref ≠ host.pageRequest repo number page := by
  intro same
  have names := congrArg (fun request => (request.query.getD []).map Prod.fst) same
  exact absurd names (by decide : ["ref"] ≠ ["per_page", "page"])

/-- Not every listed entry is asked for: the name of one may have no encoding. -/
theorem exists_listed_not_asked :
    ¬ ∀ (listing : Listing) (host : Host) (repo number ref : Json) (session : Session),
      listing.entries.length < 100 →
      session.hostReplies = listing.pageReply 0 ::
        (listing.entries.filter fun entry =>
          entry.isListed && entry.status != .removed).map Entry.reply →
      ∀ entry ∈ listing.entries, entry.isListed = true → entry.status ≠ .removed →
        .hostAsked (host.contentsRequest repo entry.filename ref) ∈
          ((host.changedFiles repo number ref).runOn session).2.trace := by
  intro claim
  let session := { Session.ofReplies [] with
    hostReplies := [strayListing.pageReply 0, (namedEntry strayName).reply] }
  have replies : session.hostReplies = strayListing.pageReply 0 ::
      (strayListing.entries.filter fun entry =>
        entry.isListed && entry.status != .removed).map Entry.reply := by
    show _ = strayListing.pageReply 0 :: ([namedEntry strayName].filter fun entry =>
        entry.isListed && entry.status != .removed).map Entry.reply
    rw [List.filter_cons_of_pos (by rw [listed_stray]; rfl)]
    rfl
  have asked := claim strayListing exampleHost .null .null .null session (by decide) replies
    (namedEntry strayName) (List.mem_singleton.mpr rfl) listed_stray (by decide)
  have exchanged := strayListing.exchanges_listPages exampleHost .null .null .null 2
  rw [exchange_stray] at exchanged
  obtain ⟨lines, run⟩ := exchanged session [(namedEntry strayName).reply] rfl
  rw [Listing.runOn_changedFiles_eq, show session.hostReplies.length + 1 = 2 + strayListing.pages
    from rfl, run] at asked
  have same := List.mem_singleton.mp asked
  exact contentsRequest_ne_pageRequest _ _ _ _ _ _ (Event.hostAsked.inj same)

end PatchReview.Host
