import PatchReview.Proofs.Host.Listing
import PatchReview.Proofs.Host.Parts
import PatchReview.Proofs.Text.Separator

/-!
# Refusals

A reply refuses a request if its status is that of a client's or a server's error. A refusal is
the end of what it is a reply to: a listing that is refused a page fails with the status of the
refusal, wherever that page stands (`Turns.refused`), and so do requests for the head of a pull
request and for a comment. A listing that comes was refused no page, and ends at one that is not
full. Every other status, a redirection too, is as good as that of a success (`Disregards`), so a
listing may come from a reply that is none (`exists_redirect_listed`).
-/

namespace PatchReview

open PatchReview.Action (runOn_bind)

-- ---------------------------------------------------------------------------
-- Requests and what comes back
-- ---------------------------------------------------------------------------

namespace Session

def asked (session : Session) (requests : List HostRequest) (lines : List LogLine) : Session :=
  session.served (session.hostReplies.drop requests.length) requests lines

theorem asked_asked (session : Session) :
    (session.asked requests lines).asked later laterLines =
      session.asked (requests ++ later) (lines ++ laterLines) := by
  rw [asked, asked, served_served, hostReplies_served, List.drop_drop, asked, List.length_append]

theorem asked_nil (session : Session) : session.asked [] [] = session := session.served_nil

theorem hostReplies_asked (session : Session) :
    (session.asked requests lines).hostReplies = session.hostReplies.drop requests.length := rfl

theorem asked_singleton (session : Session) (request : HostRequest) :
    session.asked [request] [] = session.served session.hostReplies.tail [request] [] := by
  rw [asked, List.length_singleton, List.drop_one]

end Session

namespace Host

def answered : List HostReply → List HostRequest → List (HostRequest × HostReply)
  | _, [] => []
  | replies, request :: rest => (request, replies.headD nothingFound) :: answered replies.tail rest

theorem answered_append (replies : List HostReply) (requests later : List HostRequest) :
    answered replies (requests ++ later) =
      answered replies requests ++ answered (replies.drop requests.length) later := by
  induction requests generalizing replies with
  | nil => rfl
  | cons request rest ih => simp [answered, ih]

theorem fst_mem_of_mem_answered (h : pair ∈ answered replies requests) : pair.1 ∈ requests := by
  induction requests generalizing replies with
  | nil => cases h
  | cons request rest ih =>
    rcases List.mem_cons.mp h with rfl | later
    · exact List.mem_cons_self
    · exact List.mem_cons_of_mem _ (ih later)

/-- All that an action does is to log, and to send requests of one kind. -/
def Asks (allowed : HostRequest → Prop) (x : Action Session α) : Prop :=
  ∀ session, ∃ requests lines, (x.runOn session).2 = session.asked requests lines ∧
    ∀ request ∈ requests, allowed request

namespace Asks

variable {allowed : HostRequest → Prop}

theorem of_log {x : Action Session α}
    (h : ∀ session, ∃ lines, (x.runOn session).2 = session.asked [] lines) : Asks allowed x :=
  fun session => (h session).imp' (fun _ => []) fun lines run => ⟨lines, run, nofun⟩

theorem ofExcept (result : Except Failure α) : Asks allowed (Action.ofExcept result) :=
  of_log fun session => ⟨[], session.asked_nil.symm⟩

theorem note (level : LogLevel) (text : String) :
    Asks allowed (modify (Session.note level text) : Action Session PUnit) :=
  of_log fun session => ⟨[⟨level, text⟩], session.note_eq_served level text⟩

theorem infoOf (text : Except Failure String) : Asks allowed (Session.infoOf text) := by
  cases text with
  | ok text => exact note .info text
  | error failure =>
    refine of_log fun session => ⟨[], ?_⟩
    rw [Session.asked_nil]
    cases h : session.faultyLine <;> simp [Session.infoOf, runOn_bind, h]

theorem bind {x : Action Session α} {f : α → Action Session β} (hx : Asks allowed x)
    (hf : ∀ a, Asks allowed (f a)) : Asks allowed (x >>= f) := by
  intro session
  obtain ⟨requests, lines, run, fine⟩ := hx session
  rw [runOn_bind]
  rcases h : x.runOn session with ⟨failure | a, after⟩ <;> rw [h] at run
  · exact ⟨requests, lines, run, fine⟩
  · obtain rfl : after = session.asked requests lines := run
    obtain ⟨later, laterLines, runLater, fineLater⟩ := hf a (session.asked requests lines)
    refine ⟨requests ++ later, lines ++ laterLines, ?_,
      List.forall_mem_append.mpr ⟨fine, fineLater⟩⟩
    rw [runLater, Session.asked_asked]

theorem request {host : Host} {query : Option (List (String × Json))}
    (h : allowed ⟨verb, host.apiUrl ++ path, query, body, host.headers, timeout⟩) :
    Asks allowed (host.request verb path query body) := by
  intro session
  refine ⟨_, [], ?_, List.forall_mem_singleton.mpr h⟩
  rw [runOn_request, Session.asked_singleton]

end Asks

theorem carriesOver_asks (allowed : HostRequest → Prop) :
    CarriesOver fun _ x => Asks allowed x where
  ofExcept := .ofExcept
  bind hx hf := hx.bind hf
  outcome hx := hx
  note := .note
  infoOf := .infoOf

-- ---------------------------------------------------------------------------
-- Refusals
-- ---------------------------------------------------------------------------

def IsGranted : HostReply → Prop
  | .http status _ _ => Http.isErrorStatus status = false
  | .raised _ => False

/-- A refusal of one of some requests is the end, with the status of the refusal; so what comes
was refused none of them. -/
structure Heeds (concerned : HostRequest → Prop) (path : String)
    (exchange : List (HostRequest × HostReply)) (result : Except Failure α) : Prop where
  granted : ∀ a, result = .ok a → ∀ pair ∈ exchange, concerned pair.1 → IsGranted pair.2
  refused : ∀ first request status reason body later,
    exchange = first ++ (request, .http status reason body) :: later → concerned request →
    Http.isErrorStatus status = true →
    later = [] ∧ result = .error (.host (.refused status reason request.verb path))

theorem bodyOf_of_refused (refused : Http.isErrorStatus status = true) (verb : Verb)
    (path : String) :
    bodyOf verb path (.http status reason body) =
      .error (.host (.refused status reason verb path)) :=
  if_pos refused

theorem isGranted_of_bodyOf (h : bodyOf verb path reply = .ok body) : IsGranted reply := by
  cases reply with
  | raised failure => cases failure <;> cases h
  | http status reason text =>
    rw [bodyOf] at h
    split at h
    · cases h
    · next fine => exact eq_false_of_ne_true fine

theorem heeds_single (asking : HostRequest) (path : String) (reply : HostReply)
    (read : String → Except Failure α) :
    Heeds (fun _ => True) path [(asking, reply)] ((bodyOf asking.verb path reply).bind read) where
  granted a comes pair listed _ := by
    obtain rfl := List.mem_singleton.mp listed
    cases came : bodyOf asking.verb path reply with
    | error failure =>
      rw [came] at comes
      cases comes
    | ok text => exact isGranted_of_bodyOf came
  refused first request status reason body later whole _ refused := by
    cases first with
    | nil =>
      obtain ⟨same, rfl⟩ := List.cons.inj whole
      cases same
      exact ⟨rfl, by rw [bodyOf_of_refused refused]; rfl⟩
    | cons => simp at whole

def AsksOnce (request : HostRequest) (path : String) (x : Action Session α) : Prop :=
  ∀ session, ∃ result, x.runOn session = (result, session.asked [request] []) ∧
    Heeds (fun _ => True) path (answered session.hostReplies [request]) result

theorem asksOnce_request (host : Host) (verb : Verb) (path : String)
    (query : Option (List (String × Json))) (body : Option Json) (found : Json → Except Failure α) :
    AsksOnce ⟨verb, host.apiUrl ++ path, query, body, host.headers, timeout⟩ path
      (host.request verb path query body >>= fun answer => Action.ofExcept (found answer)) := by
  intro session
  refine ⟨_, ?_, heeds_single _ path (session.hostReplies.headD nothingFound)
    fun text => (jsonBody text).bind found⟩
  rw [runOn_bind, runOn_request, Session.asked_singleton]
  cases bodyOf verb path (session.hostReplies.headD nothingFound) with
  | error failure => rfl
  | ok text =>
    simp only [Except.bind]
    cases jsonBody text <;> rfl

-- ---------------------------------------------------------------------------
-- Listings page by page
-- ---------------------------------------------------------------------------

section

variable (host : Host) (repo number ref : Json)

def IsPageRequest (request : HostRequest) : Prop :=
  ∃ page, request = host.pageRequest repo number page

def entriesIn (reply : HostReply) : Except Failure (List Json) :=
  ((bodyOf .get (filesPath repo number) reply).bind jsonBody).bind pageEntries

/-- How a listing may go on from a page, counted from zero, with what it asks and what comes
back. -/
inductive Turns : Nat → List (HostRequest × HostReply) → Except Failure (List ChangedFile) → Prop
  | failed {failure : Failure} (fails : entriesIn repo number reply = .error failure) :
      Turns page [(host.pageRequest repo number page, reply)] (.error failure)
  | broken (failure : Failure) (comes : entriesIn repo number reply = .ok entries)
      (apart : ∀ pair ∈ contents, ¬ host.IsPageRequest repo number pair.1) :
      Turns page ((host.pageRequest repo number page, reply) :: contents) (.error failure)
  | last (files : List ChangedFile) (comes : entriesIn repo number reply = .ok entries)
      (apart : ∀ pair ∈ contents, ¬ host.IsPageRequest repo number pair.1)
      (short : entries.length < pageSize) :
      Turns page ((host.pageRequest repo number page, reply) :: contents) (.ok files)
  | next (files : List ChangedFile) (comes : entriesIn repo number reply = .ok entries)
      (apart : ∀ pair ∈ contents, ¬ host.IsPageRequest repo number pair.1)
      (full : pageSize ≤ entries.length) (others : Turns (page + 1) later result) :
      Turns page ((host.pageRequest repo number page, reply) :: (contents ++ later))
        (result.map (files ++ ·))

theorem asks_listEntries (entries : List Json) :
    Asks (¬ host.IsPageRequest repo number ·) (host.listEntries repo ref entries) := by
  refine (carriesOver_asks _).listEntries (fun place => Asks.request ?_) entries
  rintro ⟨page, same⟩
  have names := congrArg (fun request => (request.query.getD []).map Prod.fst) same
  exact absurd names (by decide : ["ref"] ≠ ["per_page", "page"])

theorem runOn_listPages_succ (page left : Nat) (session : Session) :
    (host.listPages repo number ref (page + 1) (left + 1)).runOn session =
      match entriesIn repo number (session.hostReplies.headD nothingFound) with
      | .error failure => (.error failure, session.asked [host.pageRequest repo number page] [])
      | .ok entries => (do
          let files ← host.listEntries repo ref entries
          if entries.length < pageSize then return files
          else
            let others ← host.listPages repo number ref (page + 2) left
            return files ++ others : Action Session (List ChangedFile)).runOn
              (session.asked [host.pageRequest repo number page] []) := by
  rw [listPages, runOn_bind, runOn_request, entriesIn, Session.asked_singleton]
  cases (bodyOf .get (filesPath repo number) (session.hostReplies.headD nothingFound)).bind
    jsonBody with
  | error failure => rfl
  | ok answer =>
    show (Action.ofExcept (pageEntries answer) >>= _).runOn _ = match pageEntries answer with
      | .error failure => _
      | .ok entries => _
    rw [runOn_bind, Action.runOn_ofExcept]
    cases pageEntries answer <;> rfl

theorem length_pos_of_entriesIn {replies : List HostReply}
    (comes : entriesIn repo number (replies.headD nothingFound) = .ok entries) :
    0 < replies.length := by
  cases replies with
  | nil => cases comes
  | cons reply rest => exact Nat.succ_pos _

/-- Every page that comes takes a reply, so the bound on the pages is never met. -/
theorem turns_listPages (page left : Nat) (session : Session)
    (enough : session.hostReplies.length < left) :
    ∃ requests lines result,
      (host.listPages repo number ref (page + 1) left).runOn session =
        (result, session.asked requests lines) ∧
      host.Turns repo number page (answered session.hostReplies requests) result := by
  induction left generalizing page session with
  | zero => exact absurd enough (Nat.not_lt_zero _)
  | succ left ih =>
    rw [runOn_listPages_succ]
    cases comes : entriesIn repo number (session.hostReplies.headD nothingFound) with
    | error failure => exact ⟨_, _, _, rfl, .failed comes⟩
    | ok entries =>
      have some := length_pos_of_entriesIn repo number comes
      obtain ⟨requests, lines, run, kind⟩ := host.asks_listEntries repo number ref entries
        (session.asked [host.pageRequest repo number page] [])
      have apart : ∀ pair ∈ answered session.hostReplies.tail requests,
          ¬ host.IsPageRequest repo number pair.1 :=
        fun pair listed => kind _ (fst_mem_of_mem_answered listed)
      rw [Session.asked_asked] at run
      dsimp only
      rw [runOn_bind]
      rcases came : (host.listEntries repo ref entries).runOn
        (session.asked [host.pageRequest repo number page] []) with ⟨failure | files, after⟩ <;>
        rw [came] at run <;> dsimp only at run ⊢ <;> subst run
      · exact ⟨_, _, _, rfl, .broken failure comes apart⟩
      · split
        · next short => exact ⟨_, _, _, rfl, .last files comes apart short⟩
        · next full =>
          have fewer : (session.asked ([host.pageRequest repo number page] ++ requests)
              ([] ++ lines)).hostReplies.length < left := by
            rw [Session.hostReplies_asked, List.length_drop, List.length_append,
              List.length_singleton]
            omega
          obtain ⟨later, laterLines, result, runLater, turns⟩ := ih (page + 1) _ fewer
          rw [Session.asked_asked] at runLater
          refine ⟨host.pageRequest repo number page :: (requests ++ later),
            [] ++ lines ++ laterLines, result.map (files ++ ·), ?_, ?_⟩
          · rw [runOn_bind, runLater]
            cases result <;> rfl
          · rw [Session.hostReplies_asked] at turns
            have all := Turns.next files comes apart (Nat.not_lt.mp full) turns
            simpa [answered, answered_append, Nat.add_comm] using all

end

section

variable {host : Host} {repo number : Json} {asking : HostRequest}
  {exchange first later : List (HostRequest × HostReply)}

theorem entriesIn_of_refused (refused : Http.isErrorStatus status = true) :
    entriesIn repo number (.http status reason body) =
      .error (.host (.refused status reason .get (filesPath repo number))) := by
  rw [entriesIn, bodyOf_of_refused refused]
  rfl

theorem isGranted_of_entriesIn (comes : entriesIn repo number reply = .ok entries) :
    IsGranted reply := by
  rw [entriesIn] at comes
  cases body : bodyOf .get (filesPath repo number) reply with
  | error failure =>
    rw [body] at comes
    cases comes
  | ok text => exact isGranted_of_bodyOf body

/-- What is refused stands behind a page that comes. -/
theorem exists_behind (comes : entriesIn repo number reply = .ok entries)
    (whole : (page, reply) :: rest = first ++ (asking, .http status reason body) :: later)
    (refused : Http.isErrorStatus status = true) :
    ∃ behind, rest = behind ++ (asking, .http status reason body) :: later := by
  cases first with
  | nil =>
    obtain ⟨same, -⟩ := List.cons.inj whole
    obtain rfl := congrArg Prod.snd same
    rw [entriesIn_of_refused refused] at comes
    cases comes
  | cons pair first => exact ⟨first, (List.cons.inj whole).2⟩

namespace Turns

theorem granted (turns : host.Turns repo number page exchange result) (comes : result = .ok files)
    (listed : pair ∈ exchange) (asks : host.IsPageRequest repo number pair.1) :
    IsGranted pair.2 := by
  induction turns generalizing files with
  | failed | broken => cases comes
  | last _ here apart =>
    rcases List.mem_cons.mp listed with rfl | content
    · exact isGranted_of_entriesIn here
    · exact absurd asks (apart _ content)
  | @next _ _ _ _ _ result _ here apart full others ih =>
    rcases List.mem_cons.mp listed with rfl | behind
    · exact isGranted_of_entriesIn here
    · rcases List.mem_append.mp behind with content | later
      · exact absurd asks (apart _ content)
      · cases result with
        | error failure => cases comes
        | ok rest => exact ih rfl later

theorem refused (turns : host.Turns repo number page exchange result)
    (whole : exchange = first ++ (asking, .http status reason body) :: later)
    (asks : host.IsPageRequest repo number asking) (refused : Http.isErrorStatus status = true) :
    later = [] ∧
      result = .error (.host (.refused status reason .get (filesPath repo number))) := by
  induction turns generalizing first with
  | failed fails =>
    cases first with
    | nil =>
      obtain ⟨same, rfl⟩ := List.cons.inj whole
      obtain rfl := congrArg Prod.snd same
      rw [entriesIn_of_refused refused] at fails
      exact ⟨rfl, by rw [Except.error.inj fails]⟩
    | cons => simp at whole
  | broken _ comes apart =>
    obtain ⟨behind, rfl⟩ := exists_behind comes whole refused
    exact absurd asks (apart _ (List.mem_append_right behind List.mem_cons_self))
  | last _ comes apart =>
    obtain ⟨behind, rfl⟩ := exists_behind comes whole refused
    exact absurd asks (apart _ (List.mem_append_right behind List.mem_cons_self))
  | next files comes apart full others ih =>
    -- No request for contents is one for a page, so the refusal stands among the later pages.
    obtain ⟨behind, rest⟩ := exists_behind comes whole refused
    have free := fun content => apart (asking, .http status reason body) content asks
    obtain ⟨left, -, split⟩ := exists_left_of_append free rest.symm
    obtain ⟨ends, failed⟩ := ih split
    exact ⟨ends, by rw [failed]; rfl⟩

theorem heeds (turns : host.Turns repo number page exchange result) :
    Heeds (host.IsPageRequest repo number) (filesPath repo number) exchange result where
  granted _ comes _ listed asks := turns.granted comes listed asks
  refused first request status reason body later whole asks refused := by
    obtain ⟨page, rfl⟩ := asks
    exact turns.refused whole ⟨page, rfl⟩ refused

end Turns

end

end Host

-- ---------------------------------------------------------------------------
-- Other statuses
-- ---------------------------------------------------------------------------

/-- The reply with the status of a success, unless it refuses. -/
def HostReply.settled : HostReply → HostReply
  | .http status reason body =>
    .http (if Http.isErrorStatus status then status else 200) reason body
  | .raised failure => .raised failure

def Session.settled (session : Session) : Session :=
  { session with hostReplies := session.hostReplies.map HostReply.settled }

/-- An action that comes to the same whatever the statuses are of replies that do not refuse. -/
def Disregards (x : Action Session α) : Prop :=
  ∀ session, x.runOn session.settled = ((x.runOn session).1, (x.runOn session).2.settled)

namespace Disregards

theorem bind {x : Action Session α} {f : α → Action Session β} (hx : Disregards x)
    (hf : ∀ a, Disregards (f a)) : Disregards (x >>= f) := by
  intro session
  rw [runOn_bind, runOn_bind, hx session]
  rcases x.runOn session with ⟨failure | a, after⟩
  · rfl
  · exact hf a after

theorem infoOf (text : Except Failure String) : Disregards (Session.infoOf text) := by
  cases text with
  | ok text => exact fun _ => rfl
  | error failure =>
    intro session
    cases h : session.faultyLine <;> simp [Session.infoOf, runOn_bind, Session.settled, h]

end Disregards

theorem carriesOver_disregards : CarriesOver fun _ x => Disregards x where
  ofExcept _ _ := rfl
  bind hx hf := hx.bind hf
  outcome hx session := by rw [Action.runOn_outcome, Action.runOn_outcome, hx session]
  note _ _ _ := rfl
  infoOf := .infoOf

namespace Host

theorem bodyOf_settled (verb : Verb) (path : String) (reply : HostReply) :
    bodyOf verb path reply.settled = bodyOf verb path reply := by
  cases reply with
  | raised failure => rfl
  | http status reason body =>
    by_cases refused : Http.isErrorStatus status = true
    · simp [HostReply.settled, bodyOf, refused]
    · simp only [HostReply.settled, bodyOf, refused]
      rfl

theorem disregards_request (host : Host) (verb : Verb) (path : String)
    (query : Option (List (String × Json))) (body : Option Json) :
    Disregards (host.request verb path query body) := by
  intro session
  have reply : session.settled.hostReplies.headD nothingFound =
      (session.hostReplies.headD nothingFound).settled := by
    rw [Session.settled]
    cases session.hostReplies <;> rfl
  rw [runOn_request, runOn_request, reply, bodyOf_settled]
  simp [Session.settled, Session.served]

section

variable (host : Host) (repo number ref : Json)

theorem disregards_changedFiles : Disregards (host.changedFiles repo number ref) := by
  intro session
  have length : session.settled.hostReplies.length = session.hostReplies.length :=
    List.length_map _
  rw [Listing.runOn_changedFiles_eq, Listing.runOn_changedFiles_eq, length]
  exact carriesOver_disregards.listPages (fun _ => host.disregards_request _ _ _ _)
    (fun _ => host.disregards_request _ _ _ _) _ _ session

-- ---------------------------------------------------------------------------
-- All requests about a pull request
-- ---------------------------------------------------------------------------

def headPath : String := s!"/repos/{repo.display}/pulls/{number.display}"

def headRequest : HostRequest :=
  ⟨.get, host.apiUrl ++ headPath repo number, none, none, host.headers, timeout⟩

def commentsPath : String := s!"/repos/{repo.display}/issues/{number.display}/comments"

def commentRequest (body : String) : HostRequest :=
  ⟨.post, host.apiUrl ++ commentsPath repo number, none, some (.obj [("body", .str body)]),
    host.headers, timeout⟩

def addressIn : Json → Except Failure Json
  | .obj fields => .ok ((fields.lookup "html_url").getD (.str ""))
  | _ => .error .noOperation

theorem postComment_eq (body : String) :
    host.postComment repo number body =
      host.request .post (commentsPath repo number) none (some (.obj [("body", .str body)])) >>=
        fun answer => Action.ofExcept (addressIn answer) := by
  refine bind_congr fun answer => ?_
  cases answer <;> rfl

/-- A listing goes on page by page, and ends with the status of the refusal where a page is
refused; a request for the head or for a comment ends so too. No other status makes a difference. -/
theorem heeds_refusals (body : String) :
    (∀ session, ∃ requests lines result,
      (host.changedFiles repo number ref).runOn session = (result, session.asked requests lines) ∧
      host.Turns repo number 0 (answered session.hostReplies requests) result ∧
      Heeds (host.IsPageRequest repo number) (filesPath repo number)
        (answered session.hostReplies requests) result) ∧
    AsksOnce (host.headRequest repo number) (headPath repo number) (host.headSha repo number) ∧
    AsksOnce (host.commentRequest repo number body) (commentsPath repo number)
      (host.postComment repo number body) ∧
    Disregards (host.changedFiles repo number ref) ∧ Disregards (host.headSha repo number) ∧
    Disregards (host.postComment repo number body) := by
  refine ⟨fun session => ?_, ?_, ?_, host.disregards_changedFiles repo number ref, ?_, ?_⟩
  · rw [Listing.runOn_changedFiles_eq]
    obtain ⟨requests, lines, result, run, turns⟩ :=
      host.turns_listPages repo number ref 0 _ session (Nat.lt_succ_self _)
    exact ⟨requests, lines, result, run, turns, turns.heeds⟩
  · exact host.asksOnce_request .get (headPath repo number) none none _
  · rw [postComment_eq]
    exact host.asksOnce_request .post (commentsPath repo number) none _ addressIn
  · exact (host.disregards_request _ _ _ _).bind fun _ => carriesOver_disregards.ofExcept _
  · rw [postComment_eq]
    exact (host.disregards_request _ _ _ _).bind fun _ => carriesOver_disregards.ofExcept _

end

/-- A listing may come from a redirection: a page without entries ends it, whatever the status. -/
theorem exists_redirect_listed :
    ¬ ∀ (host : Host) (repo number ref : Json) (session : Session) (files : List ChangedFile)
        (requests : List HostRequest) (lines : List LogLine),
      (host.changedFiles repo number ref).runOn session =
        (.ok files, session.asked requests lines) →
      ∀ pair ∈ answered session.hostReplies requests, host.IsPageRequest repo number pair.1 →
        ∃ status reason body, pair.2 = .http status reason body ∧ 200 ≤ status ∧ status ≤ 299 := by
  intro claim
  let redirect : HostReply := .http 302 (some "Found") "[]"
  let session := { Session.ofReplies [] with hostReplies := [redirect] }
  have page : IsPage (([] : List Entry).map Entry.json) redirect := ⟨rfl, read_noEntries⟩
  obtain ⟨lines, run⟩ := exchanges_lastPage page (by decide) exampleHost (.str "o/r") (.int 1)
    (.str "sha") 0 1 session [] rfl
  have listed := Listing.runOn_changedFiles_eq exampleHost (.str "o/r") (.int 1) (.str "sha")
    session
  obtain ⟨status, reason, body, same, -, below⟩ := claim exampleHost (.str "o/r") (.int 1)
    (.str "sha") session [] [exampleHost.pageRequest (.str "o/r") (.int 1) 0] lines
    (listed.trans run) _ List.mem_cons_self ⟨0, rfl⟩
  obtain rfl : 302 = status := (HostReply.http.inj same).1
  exact absurd below (by decide)

end Host

end PatchReview
