import PatchReview.CommandLine.Run

/-!
# The program

The outer layer reads the environment and what is at the paths that a run may
name, runs the command line on them, and prints and writes what the run
leaves. It has no network: every request fails to connect.
-/

namespace PatchReview.CommandLine

def readEnvironment : List String → IO Environment
  | [] => return []
  | name :: rest => do
    let others ← readEnvironment rest
    match ← IO.getEnv name with
    | some value => return (name, value) :: others
    | none => return others

/-- Puts what is at a path on the disk. What is there and is no file that can
be read counts as a directory. -/
def probe (disk : Disk) (path : String) : IO Disk := do
  try
    let octets ← IO.FS.readBinFile path
    return disk.place path octets.toList
  catch
    | .noFileOrDirectory .. => return disk
    | _ => return disk.placeDirectory path

def pathsTo (path : String) : List String := (Path.ofString path).alongTo.map Path.text

def namedPaths (arguments : List String) (environment : Environment) : List String :=
  match Options.parse arguments with
  | .error _ => []
  | .ok options =>
    options.files ++ options.output.toList ++
      (options.eventPath.or (environment.value? "GITHUB_EVENT_PATH")).toList

def offline : String := "no network"

def sessionOf (environment : Environment) (disk : Disk) (clock : List Binary64) : Session where
  environment := environment
  clock := clock
  modelReplies := List.replicate 3 (.disconnected offline)
  hostReplies := [.raised (.request .connection offline)]
  disk := disk
  trace := []
  log := []
  faultyLine := .omitted
  printed := ""

def keep (before after : Disk) (path : String) : IO Unit :=
  match before.read path, after.read path with
  | .ok old, .ok new => if old = new then return () else write new
  | _, .ok new => write new
  | _, _ => return ()
where
  write (octets : List UInt8) : IO Unit := do
    IO.FS.createDirAll (Path.ofString path).parent.text
    IO.FS.writeBinFile path (ByteArray.mk octets.toArray)

def seconds (milliseconds : Nat) : Binary64 := .ofRatio false milliseconds 1000

/-- Runs the program and returns its exit code. A first run is timed, and the
second one reads its clock from that. -/
def runProgram (arguments : List String) : IO Nat := do
  let environment ← readEnvironment Settings.variableNames
  let paths := namedPaths arguments environment
  let disk ← (paths.flatMap pathsTo).foldlM probe ⟨[], []⟩
  let started ← IO.monoMsNow
  let _ ← IO.lazyPure fun _ => run arguments (sessionOf environment disk [])
  let ended ← IO.monoMsNow
  let outcome := run arguments (sessionOf environment disk [.zero false, seconds (ended - started)])
  IO.print outcome.session.printed
  IO.eprint outcome.errorText
  paths.forM (keep disk outcome.session.disk)
  match outcome.result with
  | .ok code => return code
  | .error failure => do
    IO.eprintln failure.message
    return 1

end PatchReview.CommandLine

def main (arguments : List String) : IO UInt32 := do
  return (← PatchReview.CommandLine.runProgram arguments).toUInt32
