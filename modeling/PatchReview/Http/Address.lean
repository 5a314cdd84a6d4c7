import PatchReview.Http.HostName
import PatchReview.Number.Numeral
import PatchReview.Path
import PatchReview.Text.Hex
import PatchReview.Text.Quoted

/-!
# Addresses

An address names a scheme, a host and a path, each of which may be left out: a
query and a fragment are not looked at. Addresses without a scheme or a host
are relative to the server. The path that the server sees has no dot steps and
has its escapes taken back twice, once on the way and once on arrival. Octets
outside ASCII that escapes stand for show as U+FFFD.
-/

namespace PatchReview.Http

inductive AddressFault where
  | tooLong
  | nonPrintable (c : Char) (position : Nat)
  | host (kind : HostKind) (text : String)
  | port (text : String)
  | slashesFirst
  | colonFirst
  deriving DecidableEq, Repr

def HostKind.noun : HostKind → String
  | version4 => "IPv4 address"
  | version6 => "IPv6 address"
  | international => "IDNA hostname"

def AddressFault.message : AddressFault → String
  | tooLong => "URL too long"
  | nonPrintable c position =>
    s!"Invalid non-printable ASCII character in URL, {Text.quote (String.singleton c)} at position {position}."
  | host kind text => s!"Invalid {kind.noun}: {Text.quote text}"
  | port text => s!"Invalid port: {Text.quote text}"
  | slashesFirst => "Relative URLs cannot have a path starting with '//'"
  | colonFirst => "Relative URLs cannot have a path starting with ':'"

/-- An address without its query and fragment. -/
structure Address where
  /-- In lower case; empty for none. -/
  scheme : List Char
  host : List Char
  /-- Whether there is anything where the host belongs. -/
  hasAuthority : Bool
  path : List Char
  deriving DecidableEq, Repr

namespace Address

def lengthLimit : Nat := 65536

def isSchemeChar (c : Char) : Bool := c.isAlphanum || c == '+' || c == '.' || c == '-'

def splitScheme (text : List Char) : List Char × List Char :=
  let scheme := text.takeWhile isSchemeChar
  match text.dropWhile isSchemeChar with
  | ':' :: rest =>
    if scheme.head?.all Char.isAlpha then (scheme.map Char.toLower, rest) else ([], text)
  | _ => ([], text)

def endsAuthority (c : Char) : Bool := c == '/' || c == '?' || c == '#'

def splitAuthority : List Char → List Char × List Char
  | '/' :: '/' :: rest =>
    (rest.takeWhile (!endsAuthority ·), rest.dropWhile (!endsAuthority ·))
  | text => ([], text)

def withoutUser (authority : List Char) : Bool × List Char :=
  let backward := authority.reverse
  match backward.dropWhile (· != '@') with
  | _ :: user => (!user.isEmpty, (backward.takeWhile (· != '@')).reverse)
  | [] => (false, authority)

/-- The host, in which brackets hide colons, and the port after it. -/
def splitPort (text : List Char) : List Char × List Char :=
  let bracketed := (text.reverse.dropWhile (· != ']')).reverse
  let host := if text.head? == some '[' && !bracketed.isEmpty then bracketed
    else text.takeWhile (· != ':')
  match text.drop host.length with
  | ':' :: port => (host, port)
  | port => (host, port)

def isWritten (c : Char) : Bool := 32 ≤ c.toNat && c.toNat ≠ 127

def ofParts (scheme authority rest : List Char) : Except AddressFault Address := do
  let (hasUser, place) := withoutUser authority
  let (host, port) := splitPort place
  if let some kind := hostFault? host then throw (.host kind (String.ofList host))
  if !port.isEmpty && (Numeral.setting? (String.ofList port)).isNone then
    throw (.port (String.ofList port))
  let path := rest.takeWhile fun c => c != '?' && c != '#'
  let hasAuthority := hasUser || !host.isEmpty || !port.isEmpty
  if scheme.isEmpty && !hasAuthority then
    if ['/', '/'].isPrefixOf path then throw .slashesFirst
    if path.head? == some ':' then throw .colonFirst
  return ⟨scheme, host, hasAuthority, path⟩

def parse (text : List Char) : Except AddressFault Address :=
  if lengthLimit < text.length then .error .tooLong
  else
    match text.dropWhile isWritten with
    | c :: _ => .error (.nonPrintable c (text.takeWhile isWritten).length)
    | [] =>
      let (scheme, rest) := splitScheme text
      let (authority, rest) := splitAuthority rest
      ofParts scheme authority rest

/-! ## The path at the server -/

/-- Steps so far and one more. A dot adds nothing, two dots take the last step
back; the root stays. -/
def addStep (steps : List (List Char)) (step : List Char) : List (List Char) :=
  if step = ['.'] then steps
  else if step = ['.', '.'] then if steps = [[]] then steps else steps.dropLast
  else steps ++ [step]

def withoutDots (path : List Char) : List Char :=
  List.intercalate ['/'] ((slashParts path).foldl addStep [])

def unescape : List Char → List Char
  | '%' :: high :: low :: rest =>
    match Text.hexValue? high, Text.hexValue? low with
    | some high, some low =>
      let octet := high * 16 + low
      (if octet < 128 then Char.ofNat octet else '\ufffd') :: unescape rest
    | _, _ => '%' :: unescape (high :: low :: rest)
  | c :: rest => c :: unescape rest
  | [] => []

def isAbsolute (address : Address) : Bool := !address.scheme.isEmpty && !address.host.isEmpty

def fullPath (address : Address) : List Char :=
  let path :=
    if address.scheme.isEmpty && !address.hasAuthority then address.path
    else withoutDots address.path
  if address.isAbsolute then if path.isEmpty then ['/'] else path
  else withoutDots ('/' :: path.dropWhile (· == '/'))

def serverPath (address : Address) : List Char := unescape (unescape address.fullPath)

end Address

end PatchReview.Http
