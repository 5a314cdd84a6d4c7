import PatchReview.Template.Layout
import PatchReview.Text.Quoted

/-!
# Faults of templates

What may be wrong with a template, with a step into a value or with a layout.
-/

namespace PatchReview

inductive TemplateFault where
  | loneOpening
  | loneClosing
  | nestedOpening
  | unclosed
  | unclosedLayout
  | noConversion
  | noColon
  | unknownName (name : String)
  /-- Nothing is given by position. -/
  | position (index : Nat)
  | emptyStep
  | strayStep
  /-- An item of a text or a row beyond its end. -/
  | beyondEnd (container : String)
  /-- An item of a value that has none, or one not asked for by place. -/
  | noItem
  | noPart
  /-- A layout for a value that takes none. -/
  | noLayout
  | unknownConversion (conversion : Char)
  | tooNested
  | layout (fault : LayoutFault)
  deriving DecidableEq, Repr

namespace TemplateFault

def message : TemplateFault → String
  | loneOpening => "Single '\x7b' encountered in format string"
  | loneClosing => "Single '\x7d' encountered in format string"
  | nestedOpening => "unexpected '\x7b' in field name"
  | unclosed => "expected '\x7d' before end of string"
  | unclosedLayout => "unmatched '\x7b' in format spec"
  | noConversion => "end of string while looking for conversion specifier"
  | noColon => "expected ':' after conversion specifier"
  | unknownName name => Text.quote name
  | position index => s!"Replacement index {index} out of range for positional args tuple"
  | emptyStep => "Empty attribute in format string"
  | strayStep => "Only '.' or '[' may follow ']' in format field specifier"
  | beyondEnd container => s!"{container} index out of range"
  | noItem | noPart | noLayout => ""
  | unknownConversion conversion =>
    "Unknown conversion specifier " ++
      (if conversion.toNat = 127 then "\\x7f" else LayoutFault.showCode conversion)
  | tooNested => "Max string recursion exceeded"
  | layout fault => fault.message

def isValue : TemplateFault → Bool
  | unknownName _ | position _ | beyondEnd _ | noItem | noPart | noLayout => false
  | layout fault => fault.isValue
  | _ => true

end TemplateFault

end PatchReview
