/-!
# Base64

The decoder skips every character outside the alphabet, line breaks among
them. A complete padding ends the text; padding where none is due is skipped.
-/

namespace PatchReview.Base64

def alphabet : List Char :=
  "ABCDEFGHIJKLMNOPQRSTUVWXYZabcdefghijklmnopqrstuvwxyz0123456789+/".toList

def sextet? (c : Char) : Option Nat := alphabet.idxOf? c

def letter (sextet : Nat) : Char := alphabet.getD sextet 'A'

def encode : List UInt8 → List Char
  | [] => []
  | [a] => [letter (a.toNat / 4), letter (a.toNat % 4 * 16), '=', '=']
  | [a, b] =>
    [letter (a.toNat / 4), letter (a.toNat % 4 * 16 + b.toNat / 16), letter (b.toNat % 16 * 4), '=']
  | a :: b :: c :: rest =>
    letter (a.toNat / 4) :: letter (a.toNat % 4 * 16 + b.toNat / 16) ::
      letter (b.toNat % 16 * 4 + c.toNat / 64) :: letter (c.toNat % 64) :: encode rest

inductive Fault where
  | loneLetter (letters : Nat)
  | padding
  | notAscii
  deriving DecidableEq, Repr

def Fault.message : Fault → String
  | .loneLetter letters =>
    s!"Invalid base64-encoded string: number of data characters ({letters}) " ++
      "cannot be 1 more than a multiple of 4"
  | .padding => "Incorrect padding"
  | .notAscii => "string argument should contain only ASCII characters"

/-- The open group of up to three letters, with the bits that are not yet
written and, after two letters, whether one padding character was seen. -/
inductive Group where
  | empty
  | one (bits : Nat)
  | two (bits : Nat) (padded : Bool)
  | three (bits : Nat)
  deriving DecidableEq, Repr

/-- Decodes the letters after an open group; `written` octets came before. -/
def decodeFrom (group : Group) (written : Nat) : List Char → Except Fault (List UInt8)
  | [] =>
    match group with
    | .empty => .ok []
    | .one _ => .error (.loneLetter (written / 3 * 4 + 1))
    | .two .. | .three _ => .error .padding
  | c :: rest =>
    if c = '=' then
      match group with
      | .empty | .one _ => decodeFrom group written rest
      | .two bits false => decodeFrom (.two bits true) written rest
      | .two _ true | .three _ => .ok []
    else
      match sextet? c with
      | none => decodeFrom group written rest
      | some sextet =>
        match group with
        | .empty => decodeFrom (.one sextet) written rest
        | .one bits =>
          (decodeFrom (.two (sextet % 16) false) (written + 1) rest).map
            ((bits * 4 + sextet / 16).toUInt8 :: ·)
        | .two bits _ =>
          (decodeFrom (.three (sextet % 4)) (written + 1) rest).map
            ((bits * 16 + sextet / 4).toUInt8 :: ·)
        | .three bits =>
          (decodeFrom .empty (written + 1) rest).map ((bits * 64 + sextet).toUInt8 :: ·)

def decode (text : List Char) : Except Fault (List UInt8) :=
  if text.all (·.toNat < 128) then decodeFrom .empty 0 text else .error .notAscii

end PatchReview.Base64
