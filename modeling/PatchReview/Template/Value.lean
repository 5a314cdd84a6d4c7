import PatchReview.Template.Fault

/-!
# Values in templates

A template starts from a number and texts, and its steps go on from there: to
the kind of a value, to the kinds that one is made from, to what is said of a
kind, and to the routines of values. Only a number and a text take a layout.
-/

namespace PatchReview

inductive Kind where
  | number
  | text
  | row
  | kind
  | routine
  | nothing
  | object
  deriving DecidableEq, Repr

namespace Kind

def name : Kind → String
  | number => "int"
  | text => "str"
  | row => "tuple"
  | kind => "type"
  | routine => "builtin_function_or_method"
  | nothing => "NoneType"
  | object => "object"

def base? : Kind → Option Kind
  | object => none
  | _ => some object

/-- What is said of a kind, if anything is. -/
def about? : Kind → Option String
  | number => some <|
    "int([x]) -> integer\n" ++
    "int(x, base=10) -> integer\n" ++
    "\n" ++
    "Convert a number or string to an integer, or return 0 if no arguments\n" ++
    "are given.  If x is a number, return x.__int__().  For floating point\n" ++
    "numbers, this truncates towards zero.\n" ++
    "\n" ++
    "If x is not a number or if base is given, then x must be a string,\n" ++
    "bytes, or bytearray instance representing an integer literal in the\n" ++
    "given base.  The literal can be preceded by '+' or '-' and be surrounded\n" ++
    "by whitespace.  The base defaults to 10.  Valid bases are 0 and 2-36.\n" ++
    "Base 0 means to interpret the base from the string as an integer literal.\n" ++
    ">>> int('0b100', base=0)\n" ++
    "4"
  | text => some <|
    "str(object='') -> str\n" ++
    "str(bytes_or_buffer[, encoding[, errors]]) -> str\n" ++
    "\n" ++
    "Create a new string object from the given object. If encoding or\n" ++
    "errors is specified, then the object must expose a data buffer\n" ++
    "that will be decoded using the given encoding and error handler.\n" ++
    "Otherwise, returns the result of object.__str__() (if defined)\n" ++
    "or repr(object).\n" ++
    "encoding defaults to sys.getdefaultencoding().\n" ++
    "errors defaults to 'strict'."
  | row => some <|
    "Built-in immutable sequence.\n" ++
    "\n" ++
    "If no argument is given, the constructor returns an empty tuple.\n" ++
    "If iterable is specified the tuple is initialized from iterable's items.\n" ++
    "\n" ++
    "If the argument is a tuple, the return value is the same object."
  | kind => some <|
    "type(object) -> the object's type\n" ++
    "type(name, bases, dict, **kwds) -> a new type"
  | object => some <|
    "The base class of the class hierarchy.\n" ++
    "\n" ++
    "When called, it accepts no arguments and returns a new featureless\n" ++
    "instance that has no instance attributes and cannot be given any.\n"
  | routine | nothing => none

def routines : Kind → List String
  | number =>
    ["as_integer_ratio", "bit_count", "bit_length", "conjugate", "from_bytes", "to_bytes"]
  | text =>
    ["capitalize", "casefold", "center", "count", "encode", "endswith", "expandtabs", "find",
      "format", "format_map", "index", "isalnum", "isalpha", "isascii", "isdecimal", "isdigit",
      "isidentifier", "islower", "isnumeric", "isprintable", "isspace", "istitle", "isupper",
      "join", "ljust", "lower", "lstrip", "maketrans", "partition", "removeprefix",
      "removesuffix", "replace", "rfind", "rindex", "rjust", "rpartition", "rsplit", "rstrip",
      "split", "splitlines", "startswith", "strip", "swapcase", "title", "translate", "upper",
      "zfill"]
  | row => ["count", "index"]
  | kind => ["mro"]
  | routine | nothing | object => []

def properties : Kind → List String
  | number => ["denominator", "imag", "numerator", "real"]
  | _ => []

end Kind

inductive TemplateValue where
  | number (n : Nat)
  | text (text : List Char)
  | row (kinds : List Kind)
  | kind (k : Kind)
  /-- What a value can do. -/
  | routine (self : TemplateValue) (name : String)
  | nothing
  /-- A routine or a property of a kind. -/
  | feature (text : String)
  deriving DecidableEq, Repr

namespace TemplateValue

def ofString (s : String) : TemplateValue := text s.toList

def kindOf : TemplateValue → Kind
  | number _ => .number
  | text _ => .text
  | row _ => .row
  | kind _ => .kind
  | routine .. => .routine
  | nothing => .nothing
  | feature _ => .object

def kindText (k : Kind) : String := s!"<class '{k.name}'>"

/-- Kinds in a row; a single one is followed by a comma. -/
def rowText : List Kind → String
  | [only] => s!"({kindText only},)"
  | kinds => "(" ++ ", ".intercalate (kinds.map kindText) ++ ")"

def toText : TemplateValue → List Char
  | number n => Nat.toDigits 10 n
  | text t => t
  | row kinds => (rowText kinds).toList
  | kind k => (kindText k).toList
  | routine self name => s!"<built-in method {name} of {self.kindOf.name} object>".toList
  | nothing => "None".toList
  | feature t => t.toList

/-! ## Parts and items -/

def ofKind? : Option Kind → TemplateValue
  | some k => kind k
  | none => nothing

def ofText? : Option String → TemplateValue
  | some t => ofString t
  | none => nothing

def kindPart (k : Kind) (name : String) : Except TemplateFault TemplateValue :=
  match name with
  | "__name__" | "__qualname__" => .ok (ofString k.name)
  | "__module__" => .ok (ofString "builtins")
  | "__base__" => .ok (ofKind? k.base?)
  | "__bases__" => .ok (row k.base?.toList)
  | "__mro__" => .ok (row (k :: k.base?.toList))
  | "__class__" => .ok (kind .kind)
  | "__doc__" => .ok (ofText? k.about?)
  | name =>
    if k.routines.contains name then .ok (feature s!"<method '{name}' of '{k.name}' objects>")
    else if k.properties.contains name then
      .ok (feature s!"<attribute '{name}' of '{k.name}' objects>")
    else .error .noPart

def commonPart (value : TemplateValue) (name : String) : Except TemplateFault TemplateValue :=
  match name with
  | "__class__" => .ok (kind value.kindOf)
  | "__doc__" => .ok (ofText? value.kindOf.about?)
  | name =>
    if value.kindOf.routines.contains name then .ok (routine value name) else .error .noPart

/-- A whole number is its own real part and its own numerator. -/
def part (name : List Char) (value : TemplateValue) : Except TemplateFault TemplateValue :=
  let name := String.ofList name
  match value, name with
  | number n, "real" | number n, "numerator" => .ok (number n)
  | number _, "imag" => .ok (number 0)
  | number _, "denominator" => .ok (number 1)
  | routine _ own, "__name__" => .ok (ofString own)
  | routine self own, "__qualname__" => .ok (ofString s!"{self.kindOf.name}.{own}")
  | routine self _, "__self__" => .ok self
  | routine .., "__module__" => .ok nothing
  | kind k, name => kindPart k name
  | value, name => commonPart value name

def item (index : Option Nat) : TemplateValue → Except TemplateFault TemplateValue
  | text t =>
    match index with
    | none => .error .noItem
    | some i => (t[i]?).elim (.error (.beyondEnd "string")) fun c => .ok (text [c])
  | row kinds =>
    match index with
    | none => .error .noItem
    | some i => (kinds[i]?).elim (.error (.beyondEnd "tuple")) fun k => .ok (kind k)
  | _ => .error .noItem

/-! ## Conversions and layouts -/

/-- The plain text, the quoted text or the quoted text in ASCII. The null
character asks for no conversion. -/
def convert (value : TemplateValue) : Option Char → Except TemplateFault TemplateValue
  | none | some '\x00' => .ok value
  | some 's' => .ok (text value.toText)
  | some 'r' => .ok <| text <| match value with
    | text t => Text.quoteChars t
    | _ => value.toText
  | some 'a' => .ok <| text <| match value with
    | text t => Text.quoteAscii t
    | _ => value.toText
  | some other => .error (.unknownConversion other)

def lay (value : TemplateValue) (layout : List Char) : Except TemplateFault (List Char) :=
  if layout.isEmpty then .ok value.toText
  else
    match value with
    | number n => ((Layout.read .number layout).bind (·.layNumber n)).mapError .layout
    | text t => ((Layout.read .text layout).bind (·.layText t)).mapError .layout
    | _ => .error .noLayout

end TemplateValue

end PatchReview
