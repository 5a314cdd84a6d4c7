import PatchReview.Text.Quoted

/-!
# UTF-8

Encoding, and decoding with the place and the reason of the first fault. A
fault of decoding covers the longest start of a character that the octets
allow, or all octets left when the text ends inside a character; one of
encoding covers the first halves of surrogate pairs that follow each other.
-/

namespace PatchReview.Utf8

def encodeChar (c : Char) : List UInt8 :=
  let n := c.toNat
  if n < 0x80 then [n.toUInt8]
  else if n < 0x800 then [(0xC0 + n / 64).toUInt8, (0x80 + n % 64).toUInt8]
  else if n < 0x10000 then
    [(0xE0 + n / 4096).toUInt8, (0x80 + n / 64 % 64).toUInt8, (0x80 + n % 64).toUInt8]
  else
    [(0xF0 + n / 262144).toUInt8, (0x80 + n / 4096 % 64).toUInt8, (0x80 + n / 64 % 64).toUInt8,
      (0x80 + n % 64).toUInt8]

def encode (text : List Char) : List UInt8 := text.flatMap encodeChar

/-- The characters `offset, …, offset + size - 1` stand for halves of
surrogate pairs, the first one for `unit`. -/
structure Unencodable where
  unit : Nat
  offset : Nat
  size : Nat
  deriving DecidableEq, Repr

def Unencodable.message (fault : Unencodable) : String :=
  let place :=
    if fault.size = 1 then
      s!"character '\\u{String.ofList (Text.hexDigits 4 fault.unit)}' in position {fault.offset}"
    else s!"characters in position {fault.offset}-{fault.offset + fault.size - 1}"
  s!"'utf-8' codec can't encode {place}: surrogates not allowed"

def unencodable? (text : List Char) : Option Unencodable :=
  match text.dropWhile (!Text.isStandIn ·) with
  | [] => none
  | c :: rest =>
    some ⟨Text.codeOf c, (text.takeWhile (!Text.isStandIn ·)).length,
      (rest.takeWhile Text.isStandIn).length + 1⟩

inductive Reason where
  | start
  | continuation
  | truncated
  deriving DecidableEq, Repr

def Reason.text : Reason → String
  | .start => "invalid start byte"
  | .continuation => "invalid continuation byte"
  | .truncated => "unexpected end of data"

/-- The octets `offset, …, offset + size - 1`, of which `octet` is the first,
are no character. -/
structure Fault where
  octet : UInt8
  offset : Nat
  size : Nat
  reason : Reason
  deriving DecidableEq, Repr

def Fault.message (fault : Fault) : String :=
  let place :=
    if fault.size = 1 then
      s!"byte 0x{String.ofList (Text.hexDigits 2 fault.octet.toNat)} in position {fault.offset}"
    else s!"bytes in position {fault.offset}-{fault.offset + fault.size - 1}"
  s!"'utf-8' codec can't decode {place}: {fault.reason.text}"

def isTail (octet : UInt8) : Bool := 0x80 ≤ octet && octet ≤ 0xBF

/-- Whether the second octet of a character may follow its first one. The
narrower ranges shut out overlong forms, surrogates and numbers above
U+10FFFF. -/
def mayFollow (first second : UInt8) : Bool :=
  isTail second &&
    !(first == 0xE0 && second < 0xA0) && !(first == 0xED && 0xA0 ≤ second) &&
    !(first == 0xF0 && second < 0x90) && !(first == 0xF4 && 0x90 ≤ second)

/-- The number of octets of a character from its first one; zero for an octet
that begins none. -/
def width (first : UInt8) : Nat :=
  if first < 0x80 then 1
  else if first < 0xC2 then 0
  else if first < 0xE0 then 2
  else if first < 0xF0 then 3
  else if first < 0xF5 then 4
  else 0

def tailBits (octet : UInt8) : Nat := octet.toNat % 64

/-- The first character and the octets after it, or the size and the reason
of the fault. -/
def next (first : UInt8) (rest : List UInt8) : Except (Nat × Reason) (Char × List UInt8) :=
  match width first with
  | 0 => .error (1, .start)
  | 1 => .ok (Char.ofNat first.toNat, rest)
  | 2 =>
    match rest with
    | [] => .error (1, .truncated)
    | second :: rest =>
      if mayFollow first second then
        .ok (Char.ofNat (first.toNat % 32 * 64 + tailBits second), rest)
      else .error (1, .continuation)
  | 3 =>
    match rest with
    | [] => .error (1, .truncated)
    | [second] => if mayFollow first second then .error (2, .truncated) else .error (1, .continuation)
    | second :: third :: rest =>
      if !mayFollow first second then .error (1, .continuation)
      else if !isTail third then .error (2, .continuation)
      else .ok (Char.ofNat (first.toNat % 16 * 4096 + tailBits second * 64 + tailBits third), rest)
  | _ =>
    match rest with
    | [] => .error (1, .truncated)
    | [second] => if mayFollow first second then .error (2, .truncated) else .error (1, .continuation)
    | [second, third] =>
      if !mayFollow first second then .error (1, .continuation)
      else if !isTail third then .error (2, .continuation)
      else .error (3, .truncated)
    | second :: third :: fourth :: rest =>
      if !mayFollow first second then .error (1, .continuation)
      else if !isTail third then .error (2, .continuation)
      else if !isTail fourth then .error (3, .continuation)
      else
        .ok (Char.ofNat (first.toNat % 8 * 262144 + tailBits second * 4096 + tailBits third * 64 +
          tailBits fourth), rest)

theorem length_of_next (h : next first rest = .ok (c, left)) : left.length ≤ rest.length := by
  unfold next at h
  repeat' split at h
  all_goals simp at h
  all_goals obtain ⟨_, rfl⟩ := h
  all_goals simp
  all_goals omega

/-- Decodes octets of which the first stands at `offset`. -/
def decodeFrom (offset : Nat) (octets : List UInt8) : Except Fault (List Char) :=
  match octets with
  | [] => .ok []
  | first :: rest =>
    match h : next first rest with
    | .error (size, reason) => .error ⟨first, offset, size, reason⟩
    | .ok (c, left) =>
      have : left.length < rest.length + 1 := Nat.lt_succ_of_le (length_of_next h)
      match decodeFrom (offset + (rest.length + 1 - left.length)) left with
      | .error fault => .error fault
      | .ok text => .ok (c :: text)
termination_by octets.length

def decode (octets : List UInt8) : Except Fault (List Char) := decodeFrom 0 octets

end PatchReview.Utf8
