/-!
# Surrogates without a partner

A text that comes as 16-bit units may hold half of a surrogate pair, which is
no character. Each of the 2048 halves is kept in a text as a stand-in from the
last private area, so that texts stay lists of characters. A stand-in is
written as the half it stands for, and a text that holds one has no encoding.

The characters from U+10D800 to U+10DFFF are taken for this, so a text that
holds one of them for itself counts as broken too and cannot be encoded. What
is said of texts and paths that can be encoded does not speak of those.
-/

namespace PatchReview.Text

def isHighSurrogate (unit : Nat) : Bool := 0xD800 ≤ unit && unit < 0xDC00

def isLowSurrogate (unit : Nat) : Bool := 0xDC00 ≤ unit && unit < 0xE000

def joinSurrogates (high low : Nat) : Char :=
  Char.ofNat (0x10000 + (high - 0xD800) * 1024 + (low - 0xDC00))

def standIn (unit : Nat) : Char := Char.ofNat (0x100000 + unit)

def ofUnit (unit : Nat) : Char :=
  if isHighSurrogate unit || isLowSurrogate unit then standIn unit else Char.ofNat unit

/-- The half that a character stands for, if it does. -/
def surrogate? (c : Char) : Option Nat :=
  if 0x10D800 ≤ c.toNat && c.toNat < 0x10E000 then some (c.toNat - 0x100000) else none

def isStandIn (c : Char) : Bool := (surrogate? c).isSome

def codeOf (c : Char) : Nat := (surrogate? c).getD c.toNat

def isBroken (text : String) : Bool := text.toList.any isStandIn

end PatchReview.Text
