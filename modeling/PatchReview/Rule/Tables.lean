import PatchReview.Issue
import PatchReview.Rule.Basic

/-!
# The rule tables

One table a category. Findings keep the order of the rows.
-/

namespace PatchReview

open Pattern CharSet

/-! ## Pieces of patterns -/

def tagRest : Pattern := many (noneOf ['>'])

def quoteSign : CharSet := oneOf ['"', '\'']

def inQuotes : CharSet := noneOf ['"', '\'']

def spaces : Pattern := many blank

def tagWithout (opening : String) (absent : List String) : Pattern :=
  sequence ([literal opening] ++ absent.map (fun text => notAhead (seq tagRest (literal text))) ++
    [tagRest, literal ">"])

/-! ## Accessibility -/

def imgMissingAlt : PatternRule Severity where
  name := "img-missing-alt"
  pattern := tagWithout "<img" ["alt="]
  severity := .medium
  message := [.text "Found ", .count, .text " img tag(s) without alt attribute"]
  suggestion := "Add descriptive alt text to all images for screen readers"

def inputMissingLabel : PatternRule Severity where
  name := "input-missing-label"
  pattern := tagWithout "<input" ["aria-label", "aria-labelledby"]
  severity := .medium
  message := [.text "Found ", .count, .text " input(s) without proper labeling"]
  suggestion := "Ensure all form inputs have associated labels or aria-label attributes"

def headingSkipsLevel : HeadingRule Severity where
  name := "heading-skips-level"
  severity := .low
  message := "Heading hierarchy skips levels"
  suggestion := "Use sequential heading levels (h1, h2, h3) for proper document structure"

def unsafeInnerHtml : PatternRule Severity where
  name := "unsafe-inner-html"
  pattern := alt (sequence [literal ".innerHTML", spaces, literal "="])
    (literal "dangerouslySetInnerHTML")
  severity := .medium
  message := [.text "Potentially unsafe innerHTML usage detected"]
  suggestion := "Consider using textContent or proper sanitization to prevent XSS"

def accessibilityRules : List (Rule Severity) :=
  [.pattern imgMissingAlt, .pattern inputMissingLabel, .heading headingSkipsLevel,
    .pattern unsafeInnerHtml]

/-! ## Performance -/

def heavyLibraryImport : PatternRule Severity where
  name := "heavy-library-import"
  pattern := sequence [literal "import", many (noneOf ['\n']), anyOf ["lodash", "moment", "jquery"],
    notAhead (one (union (oneOf ['/']) word))]
  severity := .medium
  message := [.text "Importing heavy libraries: ", .all]
  suggestion := "Consider using lighter alternatives or importing only needed functions"

def blockingOperation : PatternRule Severity where
  name := "blocking-operation"
  pattern := anyOf ["localStorage.getItem", "sessionStorage.getItem", "document.write", "alert(",
    "confirm(", "prompt("]
  severity := .low
  message := [.text "Found potentially blocking synchronous operations: ", .sample]
  suggestion := "Consider using asynchronous alternatives where possible"

def repeatedDomQuery : PatternRule Severity where
  name := "repeated-dom-query"
  pattern := alt (literal "document.getElementById") (alt (literal "document.getElementsBy")
    (seq (literal "document.querySelector") (notAhead (literal "All"))))
  severity := .low
  message := [.text "Multiple DOM queries detected (", .count, .text ")"]
  suggestion := "Cache DOM references and consider using more efficient selectors"
  minCount := 6

def imgMissingLazyLoading : PatternRule Severity where
  name := "img-missing-lazy-loading"
  pattern := sequence [literal "<img", tagRest, literal "src=", tagRest, literal ">"]
  severity := .low
  message := [.text "Images without lazy loading detected"]
  suggestion := "Add loading=\"lazy\" to images below the fold for better performance"
  extensions := [".tsx", ".jsx"]
  unlessFound := sequence [literal "loading=", one quoteSign, literal "lazy", one quoteSign]

def performanceRules : List (Rule Severity) :=
  [.pattern heavyLibraryImport, .pattern blockingOperation, .pattern repeatedDomQuery,
    .pattern imgMissingLazyLoading]

/-! ## Security -/

def evalUsage : PatternRule Severity where
  name := "eval-usage"
  pattern := sequence [wordEdge, literal "eval", spaces, literal "("]
  severity := .high
  message := [.text "Usage of eval() detected"]
  suggestion := "Avoid eval() as it can execute arbitrary code and poses security risks"

def dangerouslySetInnerHtml : PatternRule Severity where
  name := "dangerously-set-inner-html"
  pattern := literal "dangerouslySetInnerHTML"
  severity := .medium
  message := [.text "dangerouslySetInnerHTML usage detected"]
  suggestion := "Ensure content is properly sanitized before using dangerouslySetInnerHTML"

def targetBlankWithoutNoopener : PatternRule Severity where
  name := "target-blank-without-noopener"
  pattern := sequence [literal "<a", wordEdge,
    ahead (sequence [tagRest, literal "target=", one quoteSign, literal "_blank", one quoteSign]),
    notAhead (sequence [tagRest, literal "rel=", one quoteSign, many inQuotes, literal "noopener"]),
    tagRest, literal ">"]
  severity := .medium
  message := [.text "Found ", .count, .text " link(s) with target=\"_blank\" without rel=\"noopener\""]
  suggestion := "Add rel=\"noopener noreferrer\" to prevent potential security vulnerabilities"

def assignment (name : Pattern) : Pattern :=
  sequence [name, spaces, one (oneOf [':', '=']), spaces, one quoteSign, many1 inQuotes,
    one quoteSign]

def credentialRule (name : String) (target : Pattern) : PatternRule Severity where
  name := name
  pattern := assignment target
  severity := .high
  message := [.text "Potential hardcoded credentials detected"]
  suggestion := "Move sensitive data to environment variables or secure configuration"

def secretAssignment : PatternRule Severity :=
  credentialRule "secret-assignment" (anyOf ["password", "pwd", "secret", "key", "token"])

def apiKeyAssignment : PatternRule Severity :=
  credentialRule "api-key-assignment"
    (sequence [literal "api", optional (one (oneOf ['_', '-'])), literal "key"])

def accessTokenAssignment : PatternRule Severity :=
  credentialRule "access-token-assignment"
    (sequence [literal "access", optional (one (oneOf ['_', '-'])), literal "token"])

def credentialRules : List (Rule Severity) :=
  [.pattern secretAssignment, .pattern apiKeyAssignment, .pattern accessTokenAssignment]

def insecureHttpUrl : PatternRule Severity where
  name := "insecure-http-url"
  pattern := sequence [one quoteSign, literal "http", optional (letter 's'), literal "://",
    notAhead (anyOf ["localhost", "127.0.0.1"]), many inQuotes, one quoteSign]
  severity := .medium
  message := [.text "Insecure HTTP URLs detected"]
  suggestion := "Use HTTPS URLs to ensure secure communication"
  accept := .someBegins ["\"http:", "'http:"]

def securityRules : List (Rule Severity) :=
  [.pattern evalUsage, .pattern dangerouslySetInnerHtml, .pattern targetBlankWithoutNoopener,
    .firstMatch "hardcoded-credentials" credentialRules, .pattern insecureHttpUrl]

def rulesFor : Category → List (Rule Severity)
  | .accessibility => accessibilityRules
  | .performance => performanceRules
  | .security => securityRules

end PatchReview
