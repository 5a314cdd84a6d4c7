import PatchReview.Template.Value

/-!
# Message templates

A rule's message may name how often the rule matched, all matches and the
first three of them. A field stands between braces, which are written twice to
stand for themselves: a name, steps into its value, after `!` a conversion and
after a colon a layout. A layout may hold fields of its own, whose layouts may
not. A template is filled piece by piece, so of several faults in it the first
one counts.
-/

namespace PatchReview

structure MatchedTexts where
  count : Nat
  all : String
  sample : String
  deriving DecidableEq, Repr

inductive TemplateStep where
  | part (name : List Char)
  | item (key : List Char)
  | stray
  deriving DecidableEq, Repr

inductive TemplateSource where
  | count
  | all
  | sample
  | fault (fault : TemplateFault)
  deriving DecidableEq, Repr

structure TemplateField (ι : Type) where
  source : TemplateSource
  steps : List TemplateStep
  conversion : Option Char
  layout : ι
  deriving Repr

inductive TemplatePiece (ι : Type) where
  | text (text : String)
  | field (field : TemplateField ι)
  | fault (fault : TemplateFault)
  deriving Repr

inductive InnerLayout where
  | plain (text : List Char)
  | tooNested
  deriving Repr

/-- The layout of a field in a message. -/
inductive OuterLayout where
  | plain (text : List Char)
  | filled (pieces : List (TemplatePiece InnerLayout))
  deriving Repr

abbrev Template := List (TemplatePiece OuterLayout)

namespace TemplatePiece

def ofSource (source : TemplateSource) : TemplatePiece OuterLayout :=
  .field ⟨source, [], none, .plain []⟩

def count := ofSource .count
def all := ofSource .all
def sample := ofSource .sample

end TemplatePiece

namespace Template

/-! ## Filling -/

def valueOf (texts : MatchedTexts) : TemplateSource → Except TemplateFault TemplateValue
  | .count => .ok (.number texts.count)
  | .all => .ok (.text texts.all.toList)
  | .sample => .ok (.text texts.sample.toList)
  | .fault fault => .error fault

/-- The position that a name or key of digits only stands for. -/
def position? (name : List Char) : Except TemplateFault (Option Nat) :=
  match Layout.readSize name with
  | .error fault => .error (.layout fault)
  | .ok (position, rest) => .ok (if rest.isEmpty then position else none)

def step (value : TemplateValue) : TemplateStep → Except TemplateFault TemplateValue
  | .stray => .error .strayStep
  | .part name => if name.isEmpty then .error .emptyStep else value.part name
  | .item key => do
    let index ← position? key
    if key.isEmpty then .error .emptyStep else value.item index

def fillField (layoutText : ι → Except TemplateFault (List Char)) (texts : MatchedTexts)
    (field : TemplateField ι) : Except TemplateFault (List Char) := do
  let value ← field.steps.foldlM step (← valueOf texts field.source)
  let value ← value.convert field.conversion
  value.lay (← layoutText field.layout)

def fillPiece (layoutText : ι → Except TemplateFault (List Char)) (texts : MatchedTexts) :
    TemplatePiece ι → Except TemplateFault (List Char)
  | .text text => .ok text.toList
  | .field field => fillField layoutText texts field
  | .fault fault => .error fault

def fillPieces (layoutText : ι → Except TemplateFault (List Char)) (texts : MatchedTexts) :
    List (TemplatePiece ι) → Except TemplateFault (List Char)
  | [] => .ok []
  | piece :: rest => do
    let first ← fillPiece layoutText texts piece
    return first ++ (← fillPieces layoutText texts rest)

def innerLayoutText : InnerLayout → Except TemplateFault (List Char)
  | .plain text => .ok text
  | .tooNested => .error .tooNested

def outerLayoutText (texts : MatchedTexts) : OuterLayout → Except TemplateFault (List Char)
  | .plain text => .ok text
  | .filled pieces => fillPieces innerLayoutText texts pieces

def fill (texts : MatchedTexts) (template : Template) : Except TemplateFault String :=
  (fillPieces (outerLayoutText texts) texts template).map String.ofList

/-! ## Reading -/

def inName (c : Char) : Bool := c != '.' && c != '['

/-- The steps after a name: `.part` and `[item]`. -/
def stepsOf : List Char → List TemplateStep
  | [] => []
  | '.' :: rest => .part (rest.takeWhile inName) :: stepsOf (rest.dropWhile inName)
  | '[' :: rest =>
    .item (rest.takeWhile (· != ']')) :: stepsOf ((rest.dropWhile (· != ']')).drop 1)
  | _ :: _ => [.stray]
termination_by text => text.length
decreasing_by
  · have := (List.dropWhile_sublist inName (l := rest)).length_le
    simp only [List.length_cons]
    omega
  · have := (List.dropWhile_sublist (· != ']') (l := rest)).length_le
    simp only [List.length_cons, List.length_drop]
    omega

/-- How far the reading of a template has come. What was read of a part is
kept last character first. -/
inductive Place where
  | outside
  /-- In brackets, braces and colons are part of the name. -/
  | name (read : List Char) (inBrackets : Bool)
  | conversion (name : List Char)
  | converted (name : List Char) (conversion : Char)
  /-- In a layout, with the number of braces that are open. -/
  | layout (name : List Char) (conversion : Option Char) (opened : Nat) (read : List Char)

/-- A field without a name asks for the first position. -/
def sourceOf (name : List Char) : TemplateSource :=
  match position? name with
  | .error fault => .fault fault
  | .ok (some index) => .fault (.position index)
  | .ok none =>
    match String.ofList name with
    | "" => .fault (.position 0)
    | "count" => .count
    | "matches" => .all
    | "sample" => .sample
    | other => .fault (.unknownName other)

def field (name : List Char) (conversion : Option Char) (layout : ι) : TemplatePiece ι :=
  let whole := name.reverse
  .field ⟨sourceOf (whole.takeWhile inName), stepsOf (whole.dropWhile inName), conversion, layout⟩

def read (layoutOf : List Char → ι) : Place → List Char → List (TemplatePiece ι)
  | .outside, [] => []
  | .outside, '\x7b' :: '\x7b' :: rest => .text "\x7b" :: read layoutOf .outside rest
  | .outside, '\x7d' :: '\x7d' :: rest => .text "\x7d" :: read layoutOf .outside rest
  | .outside, ['\x7b'] => [.fault .loneOpening]
  | .outside, '\x7b' :: rest => read layoutOf (.name [] false) rest
  | .outside, '\x7d' :: _ => [.fault .loneClosing]
  | .outside, c :: rest => .text (String.singleton c) :: read layoutOf .outside rest
  | .name _ _, [] => [.fault .unclosed]
  | .name name true, c :: rest => read layoutOf (.name (c :: name) (c != ']')) rest
  | .name name false, c :: rest =>
    match c with
    | '\x7b' => [.fault .nestedOpening]
    | '\x7d' => field name none (layoutOf []) :: read layoutOf .outside rest
    | '!' => read layoutOf (.conversion name) rest
    | ':' => read layoutOf (.layout name none 1 []) rest
    | c => read layoutOf (.name (c :: name) (c == '[')) rest
  | .conversion _, [] => [.fault .noConversion]
  | .conversion name, c :: rest => read layoutOf (.converted name c) rest
  | .converted _ _, [] => [.fault .unclosedLayout]
  | .converted name conversion, c :: rest =>
    match c with
    | '\x7d' => field name (some conversion) (layoutOf []) :: read layoutOf .outside rest
    | ':' => read layoutOf (.layout name (some conversion) 1 []) rest
    | _ => [.fault .noColon]
  | .layout _ _ _ _, [] => [.fault .unclosedLayout]
  | .layout name conversion opened layout, c :: rest =>
    if c = '\x7d' && opened ≤ 1 then
      field name conversion (layoutOf layout.reverse) :: read layoutOf .outside rest
    else
      let opened := if c = '\x7b' then opened + 1 else if c = '\x7d' then opened - 1 else opened
      read layoutOf (.layout name conversion opened (c :: layout)) rest

def innerLayout (text : List Char) : InnerLayout :=
  if text.contains '\x7b' then .tooNested else .plain text

def outerLayout (text : List Char) : OuterLayout :=
  if text.contains '\x7b' then .filled (read innerLayout .outside text) else .plain text

def ofString (text : String) : Template := read outerLayout .outside text.toList

end Template

end PatchReview
