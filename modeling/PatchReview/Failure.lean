import PatchReview.Disk
import PatchReview.Encoding.Base64
import PatchReview.Encoding.Utf8
import PatchReview.Host.Fault
import PatchReview.Http.Address
import PatchReview.Json.Reader
import PatchReview.Provider.Fault
import PatchReview.Template.Basic

/-!
# Failures

Everything a run may fail with, by cause. `Failure.message` holds the wording.
Reviewing failures are those of the review itself: a credential, a language
model, its output or the code host. They are reported as such; all others
point at the input, the settings or the program.
-/

namespace PatchReview

inductive RequestKind where
  | general
  | connection
  | connectTimeout
  | readTimeout
  | chunkedEncoding
  deriving DecidableEq, Repr

def RequestKind.isTimeout : RequestKind → Bool
  | .connectTimeout | .readTimeout => true
  | _ => false

inductive Failure where
  | missingCredential (provider : String)
  | transport (failure : TransportFailure)
  /-- All attempts failed, the last one as given. -/
  | exhausted (last : Failure) (attempts : Int)
  | invalidOutput (fault : OutputFault)
  | host (fault : HostFault)
  /-- Raised by a provider or an analyzer of the caller's own. -/
  | review (text : String)
  | credential (text : String)
  | request (kind : RequestKind) (text : String)
  /-- The body of an answer is no JSON text. -/
  | unreadableBody (detail : String)
  | unreadableDocument (detail : String)
  | invalidModel (model : String) (violations : List Schema.Violation)
  | undecodable (fault : Utf8.Fault)
  | unencodable (fault : Utf8.Unencodable)
  /-- A text of an answer that cannot be encoded. -/
  | unwritable (fault : Utf8.Unencodable)
  | base64 (fault : Base64.Fault)
  | file (path : String) (fault : FileFault)
  | template (fault : TemplateFault)
  | address (fault : Http.AddressFault)
  | value (text : String)
  | missingKey (key : String)
  | runtime (text : String)
  /-- A whole number beyond the range of double-precision ones. -/
  | outOfRange
  /-- An infinite number where a whole one is needed. -/
  | infinite
  /-- Something is nested deeper than it can be followed. -/
  | tooDeep (text : String)
  /-- A value of the wrong kind was taken apart or compared. -/
  | wrongKind
  /-- A value without the operation that was asked of it. -/
  | noOperation
  deriving DecidableEq, Repr

namespace Failure

def message : Failure → String
  | missingCredential provider => s!"{provider} API key is required but not provided"
  | transport failure => failure.message
  | exhausted last attempts => s!"All {attempts} attempt(s) failed: {last.message}"
  | invalidOutput fault => fault.message
  | host fault => fault.message
  | invalidModel model violations => Schema.headline model violations
  | undecodable fault => fault.message
  | unencodable fault => fault.message
  | unwritable fault => s!"Error serializing to JSON: UnicodeEncodeError: {fault.message}"
  | base64 fault => fault.message
  | file path fault => fault.message path
  | template fault => fault.message
  | address fault => fault.message
  | missingKey key => Text.quote key
  | review text | credential text | request _ text | value text | runtime text | tooDeep text => text
  | unreadableBody detail | unreadableDocument detail => detail
  | outOfRange => "int too large to convert to float"
  | infinite => "cannot convert float infinity to integer"
  | wrongKind | noOperation => ""

def isReviewing : Failure → Bool
  | missingCredential _ | transport _ | exhausted .. | invalidOutput _ | host _ | review _
  | credential _ => true
  | _ => false

/-- Failures of the system that reads and writes: files, requests, and bodies
of answers. -/
def isSystem : Failure → Bool
  | file .. | request .. | unreadableBody _ => true
  | _ => false

def isValue : Failure → Bool
  | value _ | unreadableBody _ | unreadableDocument _ | invalidModel .. | undecodable _
  | unencodable _ | unwritable _ | base64 _ => true
  | template fault => fault.isValue
  | _ => false

/-- The failure of a text that could not be read. What is wrong with its
grammar is for the reader of the text to name. -/
def ofReadFault (malformed : String → Failure) (text : List Char) (fault : Json.ReadFault) : Failure :=
  match fault with
  | .grammar .. => malformed (fault.message text)
  | .tooManyDigits _ => value (fault.message text)
  | .tooNested _ => tooDeep (fault.message text)

def ofMakeFault : Disk.MakeFault → Failure
  | .file path fault => file path.text fault
  | .tooManyLevels => tooDeep "maximum recursion depth exceeded while calling a Python object"

end Failure

end PatchReview
