import PatchReview.Encoding.Utf8
import PatchReview.Json.Reader

/-!
# JSON documents in octets

A document comes without a note of its encoding. It begins with two characters
of ASCII unless it is a single one, so the zeros among its first octets tell
how wide its units are and which octet of a unit comes first.
-/

namespace PatchReview.Json

inductive ByteOrder where
  | highFirst
  | lowFirst
  deriving DecidableEq, Repr

inductive Encoding where
  | utf8
  | utf16 (order : ByteOrder)
  | utf32 (order : ByteOrder)
  deriving DecidableEq, Repr

namespace Encoding

def detect : List UInt8 → Encoding
  | [a, b] => if a = 0 then utf16 .highFirst else if b = 0 then utf16 .lowFirst else utf8
  | a :: b :: c :: d :: _ =>
    if a = 0 then if b = 0 then utf32 .highFirst else utf16 .highFirst
    else if b = 0 then if c = 0 && d = 0 then utf32 .lowFirst else utf16 .lowFirst
    else utf8
  | _ => utf8

end Encoding

def ofOctets (order : ByteOrder) (octets : List UInt8) : Nat :=
  let highFirst := match order with
    | .highFirst => octets
    | .lowFirst => octets.reverse
  highFirst.foldl (fun n octet => n * 256 + octet.toNat) 0

def units16? (order : ByteOrder) : List UInt8 → Option (List StringPart)
  | [] => some []
  | [_] => none
  | a :: b :: rest => (units16? order rest).map (.unit (ofOctets order [a, b]) :: ·)

/-- Characters of four octets, if they come out even and in range. A surrogate
is taken as half of a pair. -/
def units32? (order : ByteOrder) : List UInt8 → Option (List StringPart)
  | [] => some []
  | a :: b :: c :: d :: rest => do
    let code := ofOctets order [a, b, c, d]
    if 0x10FFFF < code then none
    else
      let others ← units32? order rest
      return (if code.isValidChar then .char (Char.ofNat code) else .unit code) :: others
  | _ => none

def withoutByteOrderMark : List Char → List Char
  | '\ufeff' :: rest => rest
  | text => text

def documentText? (octets : List UInt8) : Option (List Char) :=
  match Encoding.detect octets with
  | .utf8 => (Utf8.decode octets).toOption.map withoutByteOrderMark
  | .utf16 order => (units16? order octets).map joinParts
  | .utf32 order => (units32? order octets).map joinParts

end PatchReview.Json
