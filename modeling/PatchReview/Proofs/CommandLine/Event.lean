import PatchReview.Proofs.CommandLine.Arguments
import PatchReview.Proofs.CommandLine.Loading
import PatchReview.Proofs.Host.Listing
import PatchReview.Proofs.Json.Token

/-!
# Event payloads

A payload is text that is no UTF-8, no JSON, an event without a pull request, one that
names its repository, number and head, or none of these (`eventOf_cases`). On the first
the run reports that it cannot read its input, on the third that there is nothing to
review; the fourth it takes to the code host. On the others the program ends with a
failure that it does not report (`run_of_event`).
-/

namespace PatchReview.CommandLine

open PatchReview.Action (runOn_bind_ok runOn_bind_error)
open PatchReview.Json (bind_eq_ok)

-- ---------------------------------------------------------------------------
-- Payloads
-- ---------------------------------------------------------------------------

def Carries (octets : List UInt8) (event : Json) : Prop :=
  ∃ text, Utf8.decode octets = .ok text ∧ Json.read (unifyLineEnds text) = .ok event

def HasPullRequest (event : Json) : Prop :=
  ∃ pullRequest, Json.member "pull_request" event = .ok pullRequest ∧ pullRequest.isPresent = true

/-- An event that names the repository, the number and the head of its pull
request. -/
structure Names (event : Json) (target : Target) : Prop where
  repo : ∃ repository, Json.member "repository" event = .ok repository ∧
    Json.member "full_name" repository = .ok target.repo
  rest : ∃ pullRequest head, Json.member "pull_request" event = .ok pullRequest ∧
    pullRequest.isPresent = true ∧ Json.member "number" pullRequest = .ok target.number ∧
    Json.member "head" pullRequest = .ok head ∧ Json.member "sha" head = .ok target.head

/-- The payloads that no run copes with. -/
inductive Escapes (octets : List UInt8) : Prop
  | malformed (decodes : Utf8.decode octets = .ok text)
      (broken : Json.read (unifyLineEnds text) = .error fault)
  | noObject (carries : Carries octets event) (other : ∀ fields, event ≠ .obj fields)
  | noTarget (carries : Carries octets event) (has : HasPullRequest event)
      (nothing : ∀ target, ¬ Names event target)

def eventOf (octets : List UInt8) : Except Failure (Option Target) :=
  match Utf8.decode octets with
  | .error fault => .error (.undecodable fault)
  | .ok text =>
    let text := unifyLineEnds text
    ((Json.read text).mapError (Failure.ofReadFault .unreadableDocument text)).bind eventTarget

theorem member_obj : Json.member name (.obj fields) = .ok value ↔ fields.lookup name = some value := by
  unfold Json.member
  cases found : fields.lookup name <;> simp [found]

def Silent (x : Except Failure α) : Prop := ∀ failure, x = .error failure → reported failure = none

namespace Silent

theorem ok (a : α) : Silent (.ok a) := nofun

theorem bind {x : Except Failure α} {f : α → Except Failure β} (hx : Silent x)
    (hf : ∀ a, Silent (f a)) : Silent (x >>= f) := by
  cases x with
  | error failure =>
    rintro _ ⟨⟩
    exact hx failure rfl
  | ok a => exact hf a

theorem member (name : String) (event : Json) : Silent (Json.member name event) := by
  unfold Json.member
  rintro failure failed
  split at failed
  · split at failed <;> cases failed
    rfl
  · cases failed
    rfl

theorem eventTarget (event : Json) : Silent (eventTarget event) := by
  unfold CommandLine.eventTarget
  split
  · dsimp only
    split
    · exact .ok none
    · refine .bind (.member _ _) fun repository => .bind (.member _ _) fun repo => ?_
      refine .bind (.member _ _) fun number => .bind (.member _ _) fun head => ?_
      exact .bind (.member _ _) fun sha => .ok _
  · rintro failure ⟨⟩
    rfl

end Silent

theorem eventTarget_of_present (has : Json.member "pull_request" event = .ok pullRequest)
    (present : pullRequest.isPresent = true) :
    eventTarget event = do
      let repo ← Json.member "full_name" (← Json.member "repository" event)
      let number ← Json.member "number" pullRequest
      let head ← Json.member "sha" (← Json.member "head" pullRequest)
      return some ⟨repo, number, head⟩ := by
  cases event with
  | obj fields =>
    rw [member_obj] at has
    simp only [eventTarget, has, Option.getD_some, present, Bool.not_true, Bool.false_eq_true,
      if_false]
  | _ => cases has

theorem eventTarget_eq_none :
    eventTarget event = .ok none ↔ (∃ fields, event = .obj fields) ∧ ¬ HasPullRequest event := by
  constructor
  · intro none
    cases event with
    | obj fields =>
      refine ⟨⟨fields, rfl⟩, ?_⟩
      rintro ⟨pullRequest, has, present⟩
      rw [eventTarget_of_present has present] at none
      obtain ⟨_, _, none⟩ := bind_eq_ok.mp none
      obtain ⟨_, _, none⟩ := bind_eq_ok.mp none
      obtain ⟨_, _, none⟩ := bind_eq_ok.mp none
      obtain ⟨_, _, none⟩ := bind_eq_ok.mp none
      obtain ⟨_, _, none⟩ := bind_eq_ok.mp none
      cases none
    | _ => cases none
  · rintro ⟨⟨fields, rfl⟩, without⟩
    have absent : ((fields.lookup "pull_request").getD .null).isPresent = false := by
      cases found : fields.lookup "pull_request" with
      | none => rfl
      | some pullRequest =>
        by_contra present
        exact without ⟨pullRequest, member_obj.mpr found, by simpa using present⟩
    simp [eventTarget, absent]

theorem hasPullRequest_of_eventTarget (h : eventTarget event = .ok (some target)) :
    HasPullRequest event := by
  by_contra without
  cases event with
  | obj fields =>
    rw [eventTarget_eq_none.mpr ⟨⟨fields, rfl⟩, without⟩] at h
    cases h
  | _ => cases h

theorem eventTarget_eq_some : eventTarget event = .ok (some target) ↔ Names event target := by
  constructor
  · intro h
    obtain ⟨pullRequest, has, present⟩ := hasPullRequest_of_eventTarget h
    rw [eventTarget_of_present has present] at h
    obtain ⟨repository, hasRepository, h⟩ := bind_eq_ok.mp h
    obtain ⟨repo, hasName, h⟩ := bind_eq_ok.mp h
    obtain ⟨number, hasNumber, h⟩ := bind_eq_ok.mp h
    obtain ⟨head, hasHead, h⟩ := bind_eq_ok.mp h
    obtain ⟨sha, hasSha, h⟩ := bind_eq_ok.mp h
    cases h
    exact ⟨⟨repository, hasRepository, hasName⟩, pullRequest, head, has, present, hasNumber, hasHead,
      hasSha⟩
  · rintro ⟨⟨repository, hasRepository, hasName⟩, pullRequest, head, has, present, hasNumber, hasHead,
      hasSha⟩
    rw [eventTarget_of_present has present]
    simp only [hasRepository, hasName, hasNumber, hasHead, hasSha, bind, Except.bind]
    rfl

/-- The events that fail are no objects, or have a pull request and do not name it. -/
theorem eventTarget_eq_error : (∃ failure, eventTarget event = .error failure) ↔
    (∀ fields, event ≠ .obj fields) ∨ HasPullRequest event ∧ ∀ target, ¬ Names event target := by
  constructor
  · rintro ⟨failure, fails⟩
    cases event with
    | obj fields =>
      refine .inr ⟨?_, fun target names => ?_⟩
      · by_contra without
        rw [eventTarget_eq_none.mpr ⟨⟨fields, rfl⟩, without⟩] at fails
        cases fails
      · rw [eventTarget_eq_some.mpr names] at fails
        cases fails
    | _ => exact .inl nofun
  · intro h
    cases comes : eventTarget event with
    | error failure => exact ⟨failure, rfl⟩
    | ok found =>
      cases found with
      | none =>
        obtain ⟨⟨fields, same⟩, without⟩ := eventTarget_eq_none.mp comes
        obtain other | ⟨has, -⟩ := h
        · exact absurd same (other fields)
        · exact absurd has without
      | some target =>
        have names := eventTarget_eq_some.mp comes
        obtain other | ⟨-, nothing⟩ := h
        · obtain ⟨pullRequest, _, has, -⟩ := names.rest
          cases event with
          | obj fields => exact absurd rfl (other fields)
          | _ => cases has
        · exact absurd names (nothing target)

-- ---------------------------------------------------------------------------
-- What payloads come to
-- ---------------------------------------------------------------------------

theorem eventOf_of_carries (h : Carries octets event) : eventOf octets = eventTarget event := by
  obtain ⟨text, decodes, reads⟩ := h
  simp only [eventOf, decodes, reads]
  rfl

theorem eventOf_of_escapes (h : Escapes octets) :
    ∃ failure, eventOf octets = .error failure ∧ reported failure = none := by
  have fails {event : Json} (carries : Carries octets event)
      (h : (∀ fields, event ≠ .obj fields) ∨ HasPullRequest event ∧ ∀ target, ¬ Names event target) :
      ∃ failure, eventOf octets = .error failure ∧ reported failure = none := by
    obtain ⟨failure, fails⟩ := eventTarget_eq_error.mpr h
    exact ⟨failure, (eventOf_of_carries carries).trans fails, Silent.eventTarget event failure fails⟩
  cases h with
  | @malformed text fault decodes broken =>
    refine ⟨.ofReadFault .unreadableDocument (unifyLineEnds text) fault, ?_, ?_⟩
    · simp only [eventOf, decodes, broken]
      rfl
    · cases fault <;> rfl
  | noObject carries other => exact fails carries (.inl other)
  | noTarget carries has nothing => exact fails carries (.inr ⟨has, nothing⟩)

theorem eventOf_cases (octets : List UInt8) :
    (∃ fault, Utf8.decode octets = .error fault) ∨ Escapes octets ∨
      (∃ event, Carries octets event ∧ eventTarget event = .ok none) ∨
      ∃ event target, Carries octets event ∧ Names event target := by
  cases decodes : Utf8.decode octets with
  | error fault => exact .inl ⟨fault, rfl⟩
  | ok text =>
    right
    cases reads : Json.read (unifyLineEnds text) with
    | error fault => exact .inl (.malformed decodes reads)
    | ok event =>
      have carries : Carries octets event := ⟨text, decodes, reads⟩
      cases comes : eventTarget event with
      | ok found =>
        right
        cases found with
        | none => exact .inl ⟨event, carries, comes⟩
        | some target => exact .inr ⟨event, target, carries, eventTarget_eq_some.mp comes⟩
      | error failure =>
        obtain other | ⟨has, nothing⟩ := eventTarget_eq_error.mp ⟨failure, comes⟩
        · exact .inl (.noObject carries other)
        · exact .inl (.noTarget carries has nothing)

-- ---------------------------------------------------------------------------
-- Runs
-- ---------------------------------------------------------------------------

def eventArguments (path : String) : List String := ["--event-path", path, "--no-llm"]

def eventOptions (path : String) : Options := { eventPath := some path, noLlm := true }

theorem parse_eventArguments (plain : IsPlain path) :
    Options.parse (eventArguments path) = .ok (eventOptions path) := by
  have words : classifyAll (eventArguments path) =
      .ok [.option "--event-path" (some .eventPath) none, .value path,
        .option "--no-llm" (some .noLlm) none] :=
    classifyAll_cons (spelling_ne_separator .eventPath) (classify_spelling .eventPath) <|
      classifyAll_cons (ne_separator_of_isPlain plain) (classify_of_isPlain plain) <|
        classifyAll_cons (spelling_ne_separator .noLlm) (classify_spelling .noLlm) rfl
  unfold Options.parse
  rw [words]
  rfl

def Refuses (session : Session) : Prop :=
  ∀ reply ∈ session.hostReplies, ∃ status reason body,
    reply = .http status reason body ∧ Http.isErrorStatus status = true

theorem runOn_readEvent (isPath : IsPath path) {session : Session}
    (held : session.disk.read path = .ok octets) :
    (readEvent path).runOn session = (eventOf octets, session) := by
  unfold readEvent eventOf
  cases decodes : Utf8.decode octets with
  | error fault =>
    refine runOn_bind_error ?_
    unfold readText
    rw [runOn_bind_ok (runOn_checkPath isPath session), runOn_bind_ok (Action.runOn_get _),
      runOn_bind_ok (by rw [Action.runOn_ofExcept, held]; rfl), decodes]
    rfl
  | ok text =>
    have reads := runOn_readText path octets text session isPath.encodable isPath.noNull held decodes
    rw [runOn_bind_ok reads, String.toList_ofList, Action.runOn_bind, Action.runOn_ofExcept]
    dsimp only
    cases (Json.read (unifyLineEnds text)).mapError
      (Failure.ofReadFault .unreadableDocument (unifyLineEnds text)) <;> rfl

theorem exists_runOn_request (refuses : Refuses session) (host : Host) (path : String)
    (query : Option (List (String × Json))) :
    ∃ fault after, (host.request .get path query none).runOn session =
      (.error (.host fault), after) ∧ after.log = session.log := by
  rw [Host.runOn_request]
  have failed : Host.IsFailure (session.hostReplies.headD Host.nothingFound) := by
    cases replies : session.hostReplies with
    | nil => exact .refused rfl
    | cons reply rest =>
      obtain ⟨status, reason, body, rfl, refused⟩ :=
        refuses reply (by rw [replies]; exact List.mem_cons_self)
      exact .refused refused
  obtain ⟨fault, ends⟩ := Host.body_of_isFailure failed path
  rw [ends]
  exact ⟨fault, _, rfl, List.append_nil _⟩

theorem exists_runOn_pullRequestFiles (hasToken : settings.hostToken = some token)
    (refuses : Refuses session) (target : Target) :
    ∃ fault after, (pullRequestFiles settings target).runOn session =
      (.error (.host fault), after) ∧ after.log = session.log := by
  rw [pullRequestFiles_eq hasToken]
  dsimp only
  unfold headOf
  split
  · obtain ⟨fault, after, fails, same⟩ := exists_runOn_request refuses
      (Host.make token Host.defaultApiUrl) (Host.filesPath target.repo target.number)
      (some [("per_page", .int Host.pageSize), ("page", .int (1 : Nat))])
    refine ⟨fault, after, ?_, same⟩
    rw [runOn_bind_ok (Action.runOn_pure _ _)]
    refine runOn_bind_error ?_
    rw [Host.Listing.runOn_changedFiles_eq]
    exact runOn_bind_error fails
  · obtain ⟨fault, after, fails, same⟩ := exists_runOn_request refuses
      (Host.make token Host.defaultApiUrl)
      s!"/repos/{target.repo.display}/pulls/{target.number.display}" none
    exact ⟨fault, after, runOn_bind_error (runOn_bind_error fails), same⟩

/-- A run on an event payload, with a host that refuses everything. -/
structure EventRun (path : String) (octets : List UInt8) (session : Session) (settings : Settings)
    (least : Nat) : Prop where
  plain : IsPlain path
  named : path ≠ ""
  isPath : IsPath path
  held : session.disk.read path = .ok octets
  configured : Settings.ofEnvironment session.environment none = .ok settings
  levelled : threshold settings.logLevel = .ok least
  refuses : Refuses session

namespace EventRun

variable (given : EventRun path octets session settings least)

include given

theorem begun : Begun (eventArguments path) session (eventOptions path) settings least where
  parsed := parse_eventArguments given.plain
  noHelp := rfl
  numbered := rfl
  configured := given.configured
  levelled := given.levelled

theorem loadInput_eq : loadInput (eventOptions path) settings =
    readEvent path >>= fun
      | some target => pullRequestFiles settings target
      | none => do
        Session.warn "Event payload has no pull_request - nothing to review"
        return Input.none (.exit 0) := by
  have source : (nonEmpty (some path)).or settings.eventPath = some path := by
    simp [nonEmpty, given.named]
  unfold loadInput
  simp only [eventOptions, source, List.isEmpty_nil, Bool.not_true, Bool.false_eq_true, if_false]
  rfl

theorem runOn_process_of_error {failure : Failure} (fails : eventOf octets = .error failure) :
    (process (eventOptions path) settings).runOn session = (.error failure, session) := by
  have read := runOn_readEvent given.isPath given.held
  rw [fails] at read
  unfold process
  rw [given.loadInput_eq]
  exact runOn_bind_error (runOn_bind_error read)

theorem runOn_process_of_none (comes : eventOf octets = .ok none) :
    (process (eventOptions path) settings).runOn session = (.ok (.exit 0),
      session.note .warning "Event payload has no pull_request - nothing to review") := by
  have read := runOn_readEvent given.isPath given.held
  rw [comes] at read
  have loads : (loadInput (eventOptions path) settings).runOn session = (.ok (.none (.exit 0)),
      session.note .warning "Event payload has no pull_request - nothing to review") := by
    rw [given.loadInput_eq, runOn_bind_ok read]
    rfl
  unfold process
  rw [runOn_bind_ok loads]
  rfl

/-- A run without a token does not go to the host, and one with a token fails there. -/
theorem runOn_process_of_target (comes : eventOf octets = .ok (some target)) :
    (process (eventOptions path) settings).runOn session = (.ok (.exit 1),
        session.note .error "GITHUB_TOKEN is required to read pull requests") ∨
      ∃ fault after, (process (eventOptions path) settings).runOn session =
        (.error (.host fault), after) ∧ after.log = session.log := by
  have read := runOn_readEvent given.isPath given.held
  rw [comes] at read
  unfold process
  cases hasToken : settings.hostToken with
  | none =>
    have loads : (loadInput (eventOptions path) settings).runOn session = (.ok (.none (.exit 1)),
        session.note .error "GITHUB_TOKEN is required to read pull requests") := by
      rw [given.loadInput_eq, runOn_bind_ok read]
      dsimp only
      unfold pullRequestFiles
      rw [hasToken]
      rfl
    rw [runOn_bind_ok loads]
    exact .inl rfl
  | some token =>
    obtain ⟨fault, after, fails, same⟩ :=
      exists_runOn_pullRequestFiles hasToken given.refuses target
    refine .inr ⟨fault, after, runOn_bind_error ?_, same⟩
    rw [given.loadInput_eq, runOn_bind_ok read]
    exact fails

theorem run_of_undecodable (broken : Utf8.decode octets = .error fault) :
    let out := run (eventArguments path) session
    out.result = .ok 1 ∧
      out.session = session.note .error s!"Cannot read input: {fault.message}" := by
  have fails : eventOf octets = .error (.undecodable fault) := by rw [eventOf, broken]
  rw [given.begun.run_of_reported (given.runOn_process_of_error fails) rfl]
  exact ⟨rfl, rfl⟩

theorem run_of_escapes (h : Escapes octets) :
    let out := run (eventArguments path) session
    (∃ failure, out.result = .error failure) ∧ out.session = session := by
  obtain ⟨failure, fails, silent⟩ := eventOf_of_escapes h
  rw [given.begun.run_of_unreported (given.runOn_process_of_error fails) silent]
  exact ⟨⟨failure, rfl⟩, rfl⟩

theorem run_of_none (comes : eventOf octets = .ok none) :
    let out := run (eventArguments path) session
    out.result = .ok 0 ∧ out.session =
      session.note .warning "Event payload has no pull_request - nothing to review" := by
  rw [given.begun.run_of_exit (given.runOn_process_of_none comes)]
  exact ⟨rfl, rfl⟩

theorem run_of_target (comes : eventOf octets = .ok (some target)) :
    let out := run (eventArguments path) session
    out.result = .ok 1 ∧ ∃ text, out.session.log = session.log ++ [⟨.error, text⟩] := by
  obtain processes | ⟨fault, after, processes, same⟩ := given.runOn_process_of_target comes
  · rw [given.begun.run_of_exit processes]
    exact ⟨rfl, _, rfl⟩
  · rw [given.begun.run_of_reported processes rfl]
    exact ⟨rfl, _, congrArg (· ++ _) same⟩

end EventRun

/-- A run on an event payload ends with the exit code 0 or 1 and a line in the log, exactly
if the payload is no text, has no pull request, or names it; and it asks the host for
nothing but a pull request that is named. -/
theorem run_of_event (given : EventRun path octets session settings least) :
    let out := run (eventArguments path) session
    (∀ fault, Utf8.decode octets = .error fault → out.result = .ok 1 ∧
      out.session.log = session.log ++ [⟨.error, s!"Cannot read input: {fault.message}"⟩]) ∧
    (∀ fields, Carries octets (.obj fields) → ¬ HasPullRequest (.obj fields) → out.result = .ok 0 ∧
      out.session.log = session.log ++
        [⟨.warning, "Event payload has no pull_request - nothing to review"⟩]) ∧
    (∀ event target, Carries octets event → Names event target → out.result = .ok 1 ∧
      ∃ text, out.session.log = session.log ++ [⟨.error, text⟩]) ∧
    (Escapes octets → ∃ failure, out.result = .error failure) ∧
    (¬ Escapes octets → out.result = .ok 0 ∨ out.result = .ok 1) ∧
    (out.session.trace ≠ session.trace →
      ∃ event target, Carries octets event ∧ Names event target) := by
  have ofNames {event target} (carries : Carries octets event) (names : Names event target) :
      eventOf octets = .ok (some target) :=
    (eventOf_of_carries carries).trans (eventTarget_eq_some.mpr names)
  refine ⟨fun fault broken => ?_, fun fields carries without => ?_, fun event target carries names => ?_,
    fun escapes => (given.run_of_escapes escapes).1, fun copes => ?_, fun asked => ?_⟩
  · obtain ⟨result, after⟩ := given.run_of_undecodable broken
    exact ⟨result, by rw [after]; rfl⟩
  · obtain ⟨result, after⟩ := given.run_of_none
      ((eventOf_of_carries carries).trans (eventTarget_eq_none.mpr ⟨⟨fields, rfl⟩, without⟩))
    exact ⟨result, by rw [after]; rfl⟩
  · exact given.run_of_target (ofNames carries names)
  · obtain ⟨fault, broken⟩ | escapes | ⟨event, carries, comes⟩ | ⟨event, target, carries, names⟩ :=
      eventOf_cases octets
    · exact .inr (given.run_of_undecodable broken).1
    · exact absurd escapes copes
    · exact .inl (given.run_of_none ((eventOf_of_carries carries).trans comes)).1
    · exact .inr (given.run_of_target (ofNames carries names)).1
  · obtain ⟨fault, broken⟩ | escapes | ⟨event, carries, comes⟩ | named := eventOf_cases octets
    · exact absurd (congrArg Session.trace (given.run_of_undecodable broken).2) asked
    · exact absurd (congrArg Session.trace (given.run_of_escapes escapes).2) asked
    · have after := (given.run_of_none ((eventOf_of_carries carries).trans comes)).2
      exact absurd (congrArg Session.trace after) asked
    · exact named

-- ---------------------------------------------------------------------------
-- Payloads on a disk
-- ---------------------------------------------------------------------------

def eventSession (payload : String) : Session :=
  { Session.ofReplies [] with
    environment := [("GITHUB_TOKEN", "t")]
    hostReplies := [.http 401 (some "Unauthorized") ""]
    disk := ⟨[(["e.json"], Utf8.encode payload.toList)], []⟩ }

def eventSettings : Settings :=
  ⟨"mock", none, none, none, some "t", none, none, "INFO", 1⟩

theorem eventRun (payload : String) : EventRun "e.json" (Utf8.encode payload.toList)
    (eventSession payload) eventSettings LogLevel.info.rank where
  plain := by decide
  named := by decide
  isPath := ⟨by decide +kernel, by decide +kernel⟩
  held := rfl
  configured := by
    show Settings.ofEnvironment [("GITHUB_TOKEN", "t")] none = _
    decide +kernel
  levelled := by decide +kernel
  refuses := List.forall_mem_singleton.mpr ⟨401, _, _, rfl, rfl⟩

def namedPayload : String :=
  "\x7b\"repository\": \x7b\"full_name\": \"o/r\"\x7d, \"pull_request\": \x7b\"number\": 1, " ++
    "\"head\": \x7b\"sha\": \"s\"\x7d\x7d\x7d"

def namedEvent : Json :=
  .obj [("repository", .obj [("full_name", .str "o/r")]),
    ("pull_request", .obj [("number", .int 1), ("head", .obj [("sha", .str "s")])])]

theorem carries_named : Carries (Utf8.encode namedPayload.toList) namedEvent :=
  ⟨namedPayload.toList, by decide +kernel, by decide +kernel⟩

theorem escapes_brace : Escapes (Utf8.encode "\x7b".toList) :=
  .malformed (by decide +kernel : Utf8.decode _ = .ok "\x7b".toList) 
    (by decide +kernel : Json.read _ = .error (.grammar .propertyName 0))

/-- A pull request that is named and refused, and a payload that breaks off. -/
theorem run_of_event_named :
    let refused := run (eventArguments "e.json") (eventSession namedPayload)
    refused.result = .ok 1 ∧ (∃ text, refused.session.log = [⟨.error, text⟩]) ∧
      ∃ failure, (run (eventArguments "e.json") (eventSession "\x7b")).result = .error failure := by
  have names : Names namedEvent ⟨.str "o/r", .int 1, .str "s"⟩ :=
    ⟨⟨_, rfl, rfl⟩, _, _, rfl, rfl, rfl, rfl, rfl⟩
  obtain ⟨-, -, named, -⟩ := run_of_event (eventRun namedPayload)
  obtain ⟨-, -, -, escapes, -⟩ := run_of_event (eventRun "\x7b")
  obtain ⟨result, text, logged⟩ := named _ _ carries_named names
  exact ⟨result, ⟨text, logged⟩, escapes escapes_brace⟩

/-- Not every payload ends a run with an exit code. -/
theorem exists_payload_that_ends_program :
    ¬ ∀ path octets session settings least, EventRun path octets session settings least →
      (run (eventArguments path) session).result = .ok 0 ∨
        (run (eventArguments path) session).result = .ok 1 := by
  intro claim
  obtain ⟨⟨failure, fails⟩, -⟩ := (eventRun "\x7b").run_of_escapes escapes_brace
  obtain ended | ended := claim _ _ _ _ _ (eventRun "\x7b")
  · cases fails.symm.trans ended
  · cases fails.symm.trans ended

end PatchReview.CommandLine
