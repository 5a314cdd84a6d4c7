import PatchReview.CommandLine.Word
import PatchReview.Number.Numeral

/-!
# Command-line options

A flag's value follows after an equals sign or as the next words. Flags are
taken in order, a later one replaces an earlier one of its kind, and the first
mistake is reported. Words that no flag takes are reported last.
-/

namespace PatchReview.CommandLine

structure Options where
  files : List String := []
  repo : Option String := none
  eventPath : Option String := none
  pr : Option Int := none
  provider : Option String := none
  apiKey : Option String := none
  baseUrl : Option String := none
  model : Option String := none
  noLlm : Bool := false
  post : Bool := false
  output : Option String := none
  workers : Option Int := none
  help : Bool := false
  deriving DecidableEq, Repr

namespace Options

def integer (flag : Flag) (text : String) : Except UsageError Int :=
  match Numeral.setting? text with
  | some n => .ok n
  | none => .error (.notInteger flag text)

def setOne (options : Options) (flag : Flag) (text : String) : Except UsageError Options :=
  match flag with
  | .repo => .ok { options with repo := some text }
  | .eventPath => .ok { options with eventPath := some text }
  | .provider => .ok { options with provider := some text }
  | .apiKey => .ok { options with apiKey := some text }
  | .baseUrl => .ok { options with baseUrl := some text }
  | .model => .ok { options with model := some text }
  | .output => .ok { options with output := some text }
  | .pr => do
    let n ← integer flag text
    return { options with pr := some n }
  | .workers => do
    let n ← integer flag text
    return { options with workers := some n }
  | _ => .ok options

def setNone (options : Options) : Flag → Options
  | .noLlm => { options with noLlm := true }
  | .post => { options with post := true }
  | .help => { options with help := true }
  | _ => options

end Options

/-- Options so far, the sources among them, and words that no option took. -/
structure Parsed where
  options : Options := {}
  sources : List Flag := []
  extra : List String := []
  deriving Repr

namespace Parsed

def addSource (parsed : Parsed) (flag : Flag) : Except UsageError Parsed :=
  if Flag.sources.contains flag then
    match Flag.sources.find? (fun other => other != flag && parsed.sources.contains other) with
    | some other => .error (.conflict flag other)
    | none => .ok { parsed with sources := flag :: parsed.sources }
  else .ok parsed

/-- Takes one option. After help nothing else counts. -/
def take (parsed : Parsed) (group : Group) : Except UsageError Parsed :=
  if parsed.options.help then .ok parsed
  else
    match group.flag with
    | none => .ok { parsed with extra := parsed.extra ++ group.text :: group.following }
    | some flag =>
      match flag.arity, group.value, group.following with
      | .none, some value, _ => .error (.ignoredValue flag value)
      | .none, none, following =>
        .ok { parsed with options := parsed.options.setNone flag, extra := parsed.extra ++ following }
      | .one, some value, following => do
        let options ← parsed.options.setOne flag value
        { parsed with options := options, extra := parsed.extra ++ following }.addSource flag
      | .one, none, value :: following => do
        let options ← parsed.options.setOne flag value
        { parsed with options := options, extra := parsed.extra ++ following }.addSource flag
      | .one, none, [] => .error (.expectedOne flag)
      | .some, some value, following =>
        { parsed with
          options := { parsed.options with files := [value] }
          extra := parsed.extra ++ following }.addSource flag
      | .some, none, value :: others =>
        { parsed with options := { parsed.options with files := value :: others } }.addSource flag
      | .some, none, [] => .error (.expectedSome flag)

end Parsed

def Options.parse (words : List String) : Except UsageError Options := do
  let grouped := group (← classifyAll words)
  let parsed ← grouped.groups.foldlM Parsed.take { extra := grouped.leading }
  let extra := parsed.extra ++ grouped.trailing
  if parsed.options.help || extra.isEmpty then return parsed.options
  else throw (.unrecognized extra)

def helpText : String :=
  let line (flag : Flag) : String := s!"  {flag.name}: {flag.purpose}"
  "\n".intercalate ("usage: pr-reviewer [options]" :: "" :: Flag.all.map line)

end PatchReview.CommandLine
