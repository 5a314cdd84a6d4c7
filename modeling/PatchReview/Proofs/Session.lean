import PatchReview.Proofs.Action
import PatchReview.Session

/-!
# Running on a session

What logging and reading the clock do to a session, and the sessions that a
provider or a review leaves: some replies are taken, events and log lines come
at the end of what was there, and the clock goes on.
-/

namespace PatchReview.Session

theorem runOn_info (text : String) (session : Session) :
    (info text).runOn session = (.ok (), session.note .info text) := rfl

theorem runOn_logError (text : String) (session : Session) :
    (logError text).runOn session = (.ok (), session.note .error text) := rfl

-- ---------------------------------------------------------------------------
-- The clock
-- ---------------------------------------------------------------------------

def now (session : Session) : Binary64 := session.clock.headD (.zero false)

/-- The session when the clock was read, of which the last reading stays. -/
def ticked (session : Session) : Session :=
  match session.clock with
  | _ :: next :: later => { session with clock := next :: later }
  | _ => session

def elapsed (session : Session) : Binary64 := session.ticked.now.sub session.now

theorem runOn_readClock (session : Session) :
    readClock.runOn session = (.ok session.now, session.ticked) := by
  rcases session with ⟨environment, _ | ⟨now, _ | ⟨next, later⟩⟩⟩ <;> rfl

theorem exists_ticked (session : Session) :
    ∃ clock, session.ticked = { session with clock := clock } := by
  unfold ticked
  split
  · exact ⟨_, rfl⟩
  · exact ⟨session.clock, rfl⟩

theorem modelReplies_ticked (session : Session) :
    session.ticked.modelReplies = session.modelReplies := by
  obtain ⟨clock, ticks⟩ := session.exists_ticked
  rw [ticks]

theorem trace_ticked (session : Session) : session.ticked.trace = session.trace := by
  obtain ⟨clock, ticks⟩ := session.exists_ticked
  rw [ticks]

theorem exists_runOn_readClock (session : Session) : ∃ now after,
    readClock.runOn session = (.ok now, after) ∧
      after.modelReplies = session.modelReplies :=
  ⟨_, _, session.runOn_readClock, session.modelReplies_ticked⟩

-- ---------------------------------------------------------------------------
-- Going on
-- ---------------------------------------------------------------------------

/-- The session when so many more replies were taken, and these events and log
lines were added. -/
def advance (session : Session) (replies : Nat) (events : List Event)
    (lines : List LogLine) : Session :=
  { session with
    modelReplies := session.modelReplies.drop replies
    trace := session.trace ++ events
    log := session.log ++ lines }

theorem advance_zero (session : Session) : session.advance 0 [] [] = session := by
  simp [advance]

theorem advance_advance (session : Session) :
    (session.advance m events lines).advance n laterEvents laterLines =
      session.advance (m + n) (events ++ laterEvents) (lines ++ laterLines) := by
  simp [advance, List.drop_drop]

theorem note_eq_advance (session : Session) (level : LogLevel) (text : String) :
    session.note level text = session.advance 0 [] [⟨level, text⟩] := by
  simp [note, advance]

theorem record_eq_advance (session : Session) (event : Event) :
    session.record event = session.advance 0 [event] [] := by
  simp [record, advance]

theorem modelReplies_advance (session : Session) :
    (session.advance n events lines).modelReplies = session.modelReplies.drop n := rfl

theorem elapsed_advance (session : Session) :
    (session.advance n events lines).elapsed = session.elapsed := by
  rcases session with ⟨environment, _ | ⟨_, _ | _⟩⟩ <;> rfl

def OnFrom (session : Session) (replies : Nat) (events : List Event) (lines : List LogLine)
    (after : Session) : Prop :=
  ∃ clock, after = { session.advance replies events lines with clock := clock }

namespace OnFrom

variable {session after : Session}

theorem advance (h : session.OnFrom m events lines after) (n : Nat) (others : List Event)
    (further : List LogLine) :
    session.OnFrom (m + n) (events ++ others) (lines ++ further)
      (after.advance n others further) := by
  obtain ⟨clock, rfl⟩ := h
  refine ⟨clock, ?_⟩
  rw [← advance_advance]
  rfl

theorem ticked (h : session.OnFrom n events lines after) :
    session.OnFrom n events lines after.ticked := by
  obtain ⟨clock, rfl⟩ := h
  obtain ⟨later, ticks⟩ := exists_ticked { session.advance n events lines with clock := clock }
  exact ⟨later, ticks⟩

theorem trace_eq (h : session.OnFrom n events lines after) :
    after.trace = session.trace ++ events := by
  obtain ⟨clock, rfl⟩ := h
  rfl

theorem disk_eq (h : session.OnFrom n events lines after) : after.disk = session.disk := by
  obtain ⟨clock, rfl⟩ := h
  rfl

end OnFrom

theorem onFrom_ticked (session : Session) : session.OnFrom 0 [] [] session.ticked := by
  have start : session.OnFrom 0 [] [] session := ⟨session.clock, by rw [advance_zero]⟩
  exact start.ticked

def ofReplies (replies : List ModelReply) : Session where
  environment := []
  clock := []
  modelReplies := replies
  hostReplies := []
  disk := ⟨[], []⟩
  trace := []
  log := []
  faultyLine := .omitted
  printed := ""

end PatchReview.Session
