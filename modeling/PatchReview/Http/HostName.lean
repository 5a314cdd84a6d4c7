import PatchReview.Http.Label
import PatchReview.Text.Hex

/-!
# Hosts

A host is a number address of version 4, one of version 6 in brackets, a name
in ASCII, or an international name. What looks like an address has to be one;
of the names only the international ones follow rules.
-/

namespace PatchReview.Http

def partsAt (isSeparator : Char → Bool) : List Char → List (List Char)
  | [] => [[]]
  | c :: rest =>
    if isSeparator c then [] :: partsAt isSeparator rest
    else
      match partsAt isSeparator rest with
      | first :: others => (c :: first) :: others
      | [] => [[c]]

namespace HostName

/-! ## Version 4 -/

/-- Whether a text is four numbers with any one character between two of them.
A run of digits may be several numbers with digits between them. -/
def looksLikeVersion4 (host : List Char) : Bool :=
  let runs := (partsAt (!·.isDigit) host).map (·.length)
  let inside := runs.foldr (fun length sum => (length - 1) / 2 + sum) 0
  runs.all (0 < ·) && runs.length ≤ 4 && 4 ≤ runs.length + inside

def isOctet (text : List Char) : Bool :=
  !text.isEmpty && text.length ≤ 3 && text.all Char.isDigit &&
    (text == ['0'] || text.head? != some '0') &&
    text.foldl (fun n c => n * 10 + (c.toNat - 48)) 0 < 256

def isVersion4 (text : List Char) : Bool :=
  let octets := partsAt (· == '.') text
  octets.length == 4 && octets.all isOctet

/-! ## Version 6 -/

def isGroup (text : List Char) : Bool :=
  !text.isEmpty && text.length ≤ 4 && text.all (Text.hexValue? · |>.isSome)

/-- The groups of an address; an address of version 4 at its end is two. -/
def groups? (text : List Char) : Option (List (List Char)) :=
  let parts := partsAt (· == ':') text
  if parts.length < 3 then none
  else
    match parts.getLast? with
    | none => none
    | some last =>
      if !last.contains '.' then some parts
      else if isVersion4 last then some (parts.dropLast ++ [['0'], ['0']])
      else none

/-- The groups on both sides of the first empty one between two others. -/
def splitGap : List (List Char) → Option (List (List Char) × List (List Char))
  | first :: [] :: next :: rest => some ([first], next :: rest)
  | first :: rest => (splitGap rest).map fun (before, after) => (first :: before, after)
  | [] => none

/-- Groups on one side of a gap, or one empty group for an end of the address. -/
def areSide (groups : List (List Char)) : Bool := groups == [[]] || groups.all isGroup

def sideLength (groups : List (List Char)) : Nat := if groups == [[]] then 0 else groups.length

def areGroups (groups : List (List Char)) : Bool :=
  if 9 < groups.length then false
  else
    match splitGap groups with
    | none => groups.length == 8 && groups.all isGroup
    | some (before, after) =>
      areSide before && areSide after && sideLength before + sideLength after < 8

/-- The address and, after a percent sign, a zone. -/
def isVersion6 (text : List Char) : Bool :=
  let address := text.takeWhile (· != '%')
  let isZoned :=
    match text.dropWhile (· != '%') with
    | [] => true
    | _ :: zone => !zone.isEmpty && !zone.contains '%'
  isZoned && !text.contains '/' && (groups? address).any areGroups

/-! ## Names -/

def isDot (c : Char) : Bool := c == '.' || c == '\u3002' || c == '\uff0e' || c == '\uff61'

/-- The most characters of a name on the network, without a dot at its end. -/
def lengthLimit : Nat := 253

def isInternational (host : List Char) : Bool :=
  let labels := partsAt isDot host
  let labels := if labels.getLast? == some [] then labels.dropLast else labels
  match labels.mapM Label.written? with
  | none => false
  | some written => !written.isEmpty && (List.intercalate ['.'] written).length ≤ lengthLimit

end HostName

/-- What a host is not, though it looks like it. -/
inductive HostKind where
  | version4
  | version6
  | international
  deriving DecidableEq, Repr

/-- The kind that a host fails to be; none for a valid one. -/
def hostFault? (host : List Char) : Option HostKind :=
  if HostName.looksLikeVersion4 host then
    if HostName.isVersion4 host then none else some .version4
  else if host.head? == some '[' && host.getLast? == some ']' && 2 ≤ host.length then
    if HostName.isVersion6 (host.drop 1).dropLast then none else some .version6
  else if host.all (·.toNat < 128) || HostName.isInternational host then none
  else some .international

end PatchReview.Http
