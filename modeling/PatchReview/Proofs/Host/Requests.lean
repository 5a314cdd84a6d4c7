import PatchReview.Host.Basic
import PatchReview.Proofs.Session

/-!
# What requests to the code host do

A request takes one reply and shows in the trace; what it answers depends on
that reply alone (`runOn_request`). An action goes through an exchange with the
host if it sends these requests, takes these replies to them and does nothing
else but log, whatever the host has to say after it; exchanges follow each
other as actions do.
-/

namespace PatchReview

namespace Session

/-- The session after requests to the host, with these of its replies left and
some lines logged. -/
def served (session : Session) (left : List HostReply) (asked : List HostRequest)
    (lines : List LogLine) : Session :=
  { session with
    hostReplies := left
    trace := session.trace ++ asked.map .hostAsked
    log := session.log ++ lines }

theorem served_served (session : Session) :
    (session.served left asked lines).served laterLeft laterAsked laterLines =
      session.served laterLeft (asked ++ laterAsked) (lines ++ laterLines) := by
  simp [served]

theorem served_nil (session : Session) : session.served session.hostReplies [] [] = session := by
  simp [served]

theorem note_eq_served (session : Session) (level : LogLevel) (text : String) :
    session.note level text = session.served session.hostReplies [] [⟨level, text⟩] := by
  simp [served, note]

theorem hostReplies_served (session : Session) :
    (session.served left asked lines).hostReplies = left := rfl

end Session

namespace Host

open PatchReview.Action (runOn_bind runOn_bind_ok runOn_bind_error)

/-- What comes back once no replies are left. -/
def nothingFound : HostReply := .http 404 (some "Not Found") "\x7b\x7d"

theorem runOn_request (host : Host) (verb : Verb) (path : String)
    (query : Option (List (String × Json))) (body : Option Json) (session : Session) :
    (host.request verb path query body).runOn session =
      ((bodyOf verb path (session.hostReplies.headD nothingFound)).bind jsonBody,
        session.served session.hostReplies.tail
          [⟨verb, host.apiUrl ++ path, query, body, host.headers, timeout⟩] []) := by
  rcases session with ⟨_, _, _, _ | ⟨reply, later⟩⟩
  · simp [request, runOn_bind, Session.emit, Session.record, Session.nextHostReply, Session.served,
      nothingFound]
  · simp [request, runOn_bind, Session.emit, Session.record, Session.nextHostReply, Session.served]
    rfl

-- ---------------------------------------------------------------------------
-- Exchanges with the host
-- ---------------------------------------------------------------------------

/-- An action that goes through an exchange with the host and ends with a
result, whatever the host has to say after it. -/
def Exchanges (exchange : List (HostRequest × HostReply)) (x : Action Session α)
    (result : Except Failure α) : Prop :=
  ∀ session left, session.hostReplies = exchange.map Prod.snd ++ left →
    ∃ lines, x.runOn session = (result, session.served left (exchange.map Prod.fst) lines)

namespace Exchanges

theorem ofExcept (result : Except Failure α) : Exchanges [] (Action.ofExcept result) result := by
  intro session left replies
  refine ⟨[], ?_⟩
  rw [Action.runOn_ofExcept, ← show session.hostReplies = left from replies]
  exact congrArg (result, ·) session.served_nil.symm

theorem pure (a : α) : Exchanges [] (Pure.pure a) (.ok a) := ofExcept (.ok a)

theorem bind {x : Action Session α} {f : α → Action Session β} {result : Except Failure β}
    (hx : Exchanges first x (.ok a)) (hf : Exchanges later (f a) result) :
    Exchanges (first ++ later) (x >>= f) result := by
  intro session left replies
  rw [List.map_append, List.append_assoc] at replies
  obtain ⟨lines, run⟩ := hx session _ replies
  obtain ⟨laterLines, runLater⟩ := hf _ left session.hostReplies_served
  refine ⟨lines ++ laterLines, ?_⟩
  rw [runOn_bind_ok run, runLater, Session.served_served, List.map_append]

theorem ofExcept_bind {found : Except Failure α} {f : α → Action Session β}
    {result : Except Failure β} (ok : found = .ok a) (hf : Exchanges exchange (f a) result) :
    Exchanges exchange (Action.ofExcept found >>= f) result := by
  rw [ok]
  exact (ofExcept (.ok a)).bind hf

theorem map {x : Action Session α} {result : Except Failure α} (g : α → β)
    (hx : Exchanges exchange x result) :
    Exchanges exchange (do let a ← x; return g a) (result.map g) := by
  intro session left replies
  obtain ⟨lines, run⟩ := hx session left replies
  refine ⟨lines, ?_⟩
  cases result with
  | ok a => exact runOn_bind_ok run
  | error failure => exact runOn_bind_error run

theorem info (text : String) : Exchanges [] (Session.info text) (.ok ()) := by
  intro session left replies
  refine ⟨[⟨.info, text⟩], ?_⟩
  rw [Session.runOn_info, Session.note_eq_served, ← show session.hostReplies = left from replies]
  rfl

theorem bind_error {x : Action Session α} {f : α → Action Session β} {failure : Failure}
    (hx : Exchanges exchange x (.error failure)) :
    Exchanges exchange (x >>= f) (.error failure) := by
  intro session left replies
  obtain ⟨lines, run⟩ := hx session left replies
  exact ⟨lines, runOn_bind_error run⟩

theorem request (host : Host) (path : String) (query : Option (List (String × Json)))
    (reply : HostReply) :
    Exchanges [(⟨.get, host.apiUrl ++ path, query, none, host.headers, timeout⟩, reply)]
      (host.request .get path query none) ((bodyOf .get path reply).bind jsonBody) := by
  intro session left replies
  rw [runOn_request, show session.hostReplies = reply :: left from replies]
  exact ⟨[], rfl⟩

end Exchanges

end Host

end PatchReview
