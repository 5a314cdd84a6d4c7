import PatchReview.Action
import PatchReview.Json.Basic

/-!
# Sessions

A session holds what the outside still has to answer, in order, and the record
of what was done to it: requests and pauses, log lines and printed text. The
settings come from an environment, and files from a disk.
-/

namespace PatchReview

inductive ModelReply where
  | timedOut
  | disconnected (detail : String)
  | http (status : Int) (reason : Option String) (body : String)
  /-- A whole chat completion. -/
  | completion (response : Json)
  /-- The content of a message. -/
  | content (content : Json)
  | raised (failure : Failure)

inductive HostReply where
  | http (status : Int) (reason : Option String) (body : String)
  | raised (failure : Failure)

structure HostRequest where
  verb : Verb
  url : String
  query : Option (List (String × Json))
  body : Option Json
  headers : List (String × String)
  timeout : Binary64

inductive Event where
  | slept (seconds : Binary64)
  /-- A client was built with these settings. -/
  | clientBuilt (settings : List (String × Json))
  | completionAsked (request : List (String × Json))
  | messageSent (prompt : String)
  | posted (url : String) (body : Json) (timeout : Binary64)
  | hostAsked (request : HostRequest)
  /-- A provider of the caller's own was asked. -/
  | consulted (prompt : String)

inductive LogLevel where
  | debug
  | info
  | warning
  | error
  deriving DecidableEq, Repr

namespace LogLevel

def name : LogLevel → String
  | debug => "DEBUG"
  | info => "INFO"
  | warning => "WARNING"
  | error => "ERROR"

/-- Importance; a log shows the lines from some importance on. -/
def rank : LogLevel → Nat
  | debug => 10
  | info => 20
  | warning => 30
  | error => 40

end LogLevel

structure LogLine where
  level : LogLevel
  text : String
  deriving DecidableEq, Repr

def LogLine.render (line : LogLine) : String := s!"{line.level.name}: {line.text}"

/-- What becomes of a log line whose text cannot be formed. -/
inductive FaultyLine where
  /-- The failure goes on. -/
  | raised
  /-- The line is left out. -/
  | omitted
  deriving DecidableEq, Repr

abbrev Environment := List (String × String)

structure Session where
  environment : Environment
  /-- Readings still to come; the last one repeats. -/
  clock : List Binary64
  modelReplies : List ModelReply
  hostReplies : List HostReply
  disk : Disk
  trace : List Event
  log : List LogLine
  faultyLine : FaultyLine
  printed : String

namespace Session

def record (event : Event) (session : Session) : Session :=
  { session with trace := session.trace ++ [event] }

def note (level : LogLevel) (text : String) (session : Session) : Session :=
  { session with log := session.log ++ [⟨level, text⟩] }

def emit (event : Event) : Action Session Unit := modify (record event)

def info (text : String) : Action Session Unit := modify (note .info text)

def infoOf : Except Failure String → Action Session Unit
  | .ok text => info text
  | .error failure => do
    match (← get).faultyLine with
    | .raised => throw failure
    | .omitted => return ()

def warn (text : String) : Action Session Unit := modify (note .warning text)

def logError (text : String) : Action Session Unit := modify (note .error text)

def print (text : String) : Action Session Unit :=
  modify fun session => { session with printed := session.printed ++ text ++ "\n" }

def sleep (seconds : Binary64) : Action Session Unit := emit (.slept seconds)

def readClock : Action Session Binary64 := do
  let session ← get
  match session.clock with
  | [] => return .zero false
  | [last] => return last
  | now :: later =>
    set { session with clock := later }
    return now

def nextModelReply : Action Session ModelReply := do
  let session ← get
  match session.modelReplies with
  | [] => throw (.runtime "no outcome left")
  | reply :: later =>
    set { session with modelReplies := later }
    return reply

/-- The next answer of the code host, which finds nothing once none are left. -/
def nextHostReply : Action Session HostReply := do
  let session ← get
  match session.hostReplies with
  | [] => return .http 404 (some "Not Found") "\x7b\x7d"
  | reply :: later =>
    set { session with hostReplies := later }
    return reply

end Session

end PatchReview
