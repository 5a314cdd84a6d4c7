import PatchReview.Pattern.Basic

/-!
# All matches in a text

Matches are collected from left to right and do not overlap: the next one is
sought from the end of the last. An empty match may be followed at the same
place by one that is not empty, and never by a second empty one.
-/

namespace PatchReview

structure Match where
  start : Cursor
  text : List Char
  deriving DecidableEq, Repr

namespace Pattern

def matchLength? (p : Pattern) (here : Cursor) : Option Nat :=
  p.run here fun there => some (here.after.length - there.after.length)

/-- The length of the preferred match from here that is not empty. -/
def properLength? (p : Pattern) (here : Cursor) : Option Nat :=
  p.run here fun there =>
    if there.after.length < here.after.length then some (here.after.length - there.after.length)
    else none

/-- The matches that begin here: at most an empty one and a proper one. -/
def matchesAt (p : Pattern) (here : Cursor) : List Match :=
  match p.matchLength? here with
  | none => []
  | some 0 =>
    ⟨here, []⟩ ::
      match p.properLength? here with
      | none => []
      | some length => [⟨here, here.after.take length⟩]
  | some length => [⟨here, here.after.take length⟩]

def covered (found : List Match) : Nat := found.foldr (fun m total => m.text.length + total) 0

/-- The matches that begin after the first `skip` characters from here. -/
def scan (p : Pattern) (skip : Nat) (before : List Char) : List Char → List Match
  | [] => if skip = 0 then p.matchesAt ⟨before, []⟩ else []
  | c :: rest =>
    match skip with
    | skip + 1 => p.scan skip (c :: before) rest
    | 0 =>
      let found := p.matchesAt ⟨before, c :: rest⟩
      found ++ p.scan (covered found - 1) (c :: before) rest

def findAll (p : Pattern) (text : List Char) : List Match := p.scan 0 [] text

def occursIn (p : Pattern) (text : List Char) : Bool := !(p.findAll text).isEmpty

end Pattern

end PatchReview
