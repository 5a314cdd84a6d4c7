import PatchReview.Text.Blank
import PatchReview.Text.Case
import PatchReview.Text.Word

/-!
# Text patterns

Patterns are tried at a place in a text and look ahead of it or, for the edge
of a word, one character back. Letters match without regard to case. `ends` is
the meaning of a pattern: every place where a match from here may end, in the
order in which alternatives are preferred. `run` finds the first of them from
which a continuation succeeds, and computes no more of the list than it needs;
`run_eq_findSome` says so.
-/

namespace PatchReview

/-- A place in a text: the characters before it, nearest first, and those
after it. -/
structure Cursor where
  before : List Char
  after : List Char
  deriving DecidableEq, Repr

def Cursor.start (text : List Char) : Cursor := ⟨[], text⟩

def Cursor.line (here : Cursor) : Nat := here.before.count '\n' + 1

inductive CharSet where
  | oneOf (members : List Char)
  | noneOf (members : List Char)
  /-- Letters, in any case. -/
  | letters (members : List Char)
  | blank
  | word
  | union (first second : CharSet)
  deriving DecidableEq, Repr

def sameLetter (c d : Char) : Bool := Text.fold c == Text.fold d

/-- Whether a letter of a set stands for a character. One beyond U+FFFF stands
for those that it is the lower case of, so a capital stands for nothing. -/
def standsFor (c d : Char) : Bool :=
  if c.toNat < 0x10000 then sameLetter c d else c == Text.fold d

def CharSet.has : CharSet → Char → Bool
  | .oneOf members, c => members.contains c
  | .noneOf members, c => !members.contains c
  | .letters members, c => members.any (standsFor · c)
  | .blank, c => Text.isBlank c
  | .word, c => Text.isWord c
  | .union first second, c => first.has c || second.has c

inductive Pattern where
  /-- Nothing. -/
  | empty
  /-- One character, in any case. -/
  | letter (c : Char)
  | one (set : CharSet)
  | seq (first second : Pattern)
  /-- The first alternative is preferred. -/
  | alt (first second : Pattern)
  /-- As many characters of the set as possible, then fewer. -/
  | many (set : CharSet)
  /-- Nothing, where the pattern matches. -/
  | ahead (p : Pattern)
  /-- Nothing, where the pattern does not match. -/
  | notAhead (p : Pattern)
  /-- Nothing, between a word character and another one or an end. -/
  | wordEdge
  deriving DecidableEq, Repr

namespace Pattern

def letters (text : List Char) (next : Pattern) : Pattern :=
  text.foldr (fun c p => seq (letter c) p) next

def literal (text : String) : Pattern := letters text.toList empty

def many1 (set : CharSet) : Pattern := seq (one set) (many set)

def optional (p : Pattern) : Pattern := alt p empty

def sharedStart : List Char → List Char → List Char
  | c :: rest, d :: other => if c = d then c :: sharedStart rest other else []
  | _, _ => []

def alternatives : List String → Pattern
  | [] => empty
  | [text] => literal text
  | text :: rest => alt (literal text) (alternatives rest)

/-- The literals in order of preference. Those that differ in their last
character only are one literal that ends in a set. -/
def anyOf : List String → Pattern
  | first :: second :: rest =>
    let texts := (first :: second :: rest).map String.toList
    let start := texts.foldl sharedStart first.toList
    let ends := texts.map (·.drop start.length)
    if ends.all (·.length == 1) then letters start (one (.letters ends.flatten))
    else alternatives (first :: second :: rest)
  | texts => alternatives texts

def sequence (parts : List Pattern) : Pattern := parts.foldr seq empty

def atWordEdge (here : Cursor) : Bool :=
  here.before.head?.any Text.isWord != here.after.head?.any Text.isWord

/-- The places after characters of a set, the farthest first. -/
def manyEnds (set : CharSet) (before : List Char) : List Char → List Cursor
  | [] => [⟨before, []⟩]
  | c :: rest =>
    if set.has c then manyEnds set (c :: before) rest ++ [⟨before, c :: rest⟩]
    else [⟨before, c :: rest⟩]

def ends : Pattern → Cursor → List Cursor
  | empty, here => [here]
  | letter c, ⟨before, after⟩ =>
    match after with
    | d :: rest => if sameLetter c d then [⟨d :: before, rest⟩] else []
    | [] => []
  | one set, ⟨before, after⟩ =>
    match after with
    | d :: rest => if set.has d then [⟨d :: before, rest⟩] else []
    | [] => []
  | seq first second, here => (first.ends here).flatMap second.ends
  | alt first second, here => first.ends here ++ second.ends here
  | many set, ⟨before, after⟩ => manyEnds set before after
  | ahead p, here => if (p.ends here).isEmpty then [] else [here]
  | notAhead p, here => if (p.ends here).isEmpty then [here] else []
  | wordEdge, here => if atWordEdge here then [here] else []

def runMany (set : CharSet) (before : List Char) (after : List Char)
    (next : Cursor → Option α) : Option α :=
  match after with
  | [] => next ⟨before, []⟩
  | c :: rest =>
    if set.has c then
      match runMany set (c :: before) rest next with
      | some found => some found
      | none => next ⟨before, c :: rest⟩
    else next ⟨before, c :: rest⟩

/-- The first success of a continuation over the ends of matches from here. -/
def run : Pattern → Cursor → (Cursor → Option α) → Option α
  | empty, here, next => next here
  | letter c, ⟨before, after⟩, next =>
    match after with
    | d :: rest => if sameLetter c d then next ⟨d :: before, rest⟩ else none
    | [] => none
  | one set, ⟨before, after⟩, next =>
    match after with
    | d :: rest => if set.has d then next ⟨d :: before, rest⟩ else none
    | [] => none
  | seq first second, here, next => first.run here fun there => second.run there next
  | alt first second, here, next =>
    match first.run here next with
    | some found => some found
    | none => second.run here next
  | many set, ⟨before, after⟩, next => runMany set before after next
  | ahead p, here, next => if (p.run here fun _ => some ()).isSome then next here else none
  | notAhead p, here, next => if (p.run here fun _ => some ()).isSome then none else next here
  | wordEdge, here, next => if atWordEdge here then next here else none

theorem runMany_eq_findSome (set : CharSet) (before after : List Char) (next : Cursor → Option α) :
    runMany set before after next = (manyEnds set before after).findSome? next := by
  induction after generalizing before with
  | nil => simp [runMany, manyEnds]
  | cons c rest ih =>
    by_cases h : set.has c
    · simp only [runMany, manyEnds, h, if_true, ih, List.findSome?_append]
      cases (manyEnds set (c :: before) rest).findSome? next <;> simp
    · simp [runMany, manyEnds, h]

private theorem isSome_findSome_const (places : List Cursor) :
    (places.findSome? fun _ => some ()).isSome = !places.isEmpty := by
  cases places <;> simp

theorem run_eq_findSome (p : Pattern) (here : Cursor) (next : Cursor → Option α) :
    p.run here next = (p.ends here).findSome? next := by
  induction p generalizing α here with
  | empty => simp [run, ends]
  | letter c =>
    obtain ⟨before, _ | ⟨d, rest⟩⟩ := here
    · simp [run, ends]
    · by_cases h : sameLetter c d <;> simp [run, ends, h]
  | one set =>
    obtain ⟨before, _ | ⟨d, rest⟩⟩ := here
    · simp [run, ends]
    · by_cases h : set.has d <;> simp [run, ends, h]
  | seq first second ihf ihs =>
    simp only [run, ends, ihf, ihs]
    induction first.ends here with
    | nil => simp
    | cons place rest ih =>
      simp only [List.findSome?_cons, List.flatMap_cons, List.findSome?_append, ih]
      cases (second.ends place).findSome? next <;> simp
  | alt first second ihf ihs =>
    simp only [run, ends, ihf, ihs, List.findSome?_append]
    cases (first.ends here).findSome? next <;> simp
  | many set => exact runMany_eq_findSome set here.before here.after next
  | ahead p ih =>
    simp only [run, ends, ih, isSome_findSome_const]
    cases (p.ends here).isEmpty <;> simp
  | notAhead p ih =>
    simp only [run, ends, ih, isSome_findSome_const]
    cases (p.ends here).isEmpty <;> simp
  | wordEdge => by_cases h : atWordEdge here <;> simp [run, ends, h]

end Pattern

end PatchReview
