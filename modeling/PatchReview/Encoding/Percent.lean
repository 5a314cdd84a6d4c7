import PatchReview.Encoding.Utf8
import PatchReview.Text.Hex

/-!
# Percent encoding of a path

Unreserved characters and the slash stand for themselves; every other
character is written as the escapes of its UTF-8 octets. Decoding takes the
octets back; what stands for itself has to be ASCII.
-/

namespace PatchReview.Percent

def isUnreserved (c : Char) : Bool :=
  c.isAlphanum || c == '_' || c == '.' || c == '-' || c == '~'

def escape (octet : UInt8) : List Char :=
  '%' :: (Text.hexDigits 2 octet.toNat).map Char.toUpper

def encodeChar (c : Char) : List Char :=
  if isUnreserved c || c == '/' then [c] else (Utf8.encodeChar c).flatMap escape

def encode (path : List Char) : List Char := path.flatMap encodeChar

def octets? : List Char → Option (List UInt8)
  | [] => some []
  | '%' :: high :: low :: rest => do
    let high ← Text.hexValue? high
    let low ← Text.hexValue? low
    let others ← octets? rest
    return (high * 16 + low).toUInt8 :: others
  | c :: rest =>
    if c = '%' || 128 ≤ c.toNat then none
    else (octets? rest).map (c.toNat.toUInt8 :: ·)

def decode (text : List Char) : Option (List Char) :=
  (octets? text).bind fun octets => (Utf8.decode octets).toOption

end PatchReview.Percent
