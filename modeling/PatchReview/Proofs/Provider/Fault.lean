import PatchReview.Failure
import PatchReview.Proofs.Text.Surrogate

/-!
# Faults can be told

The messages about an answer that is no review name its source and where in it
the fault is, but quote nothing of it. So they have an encoding, whatever the
answer was.
-/

namespace PatchReview

open Text (isBroken isBroken_append isBroken_append_ofList isBroken_ofList isBroken_toString)

theorem Service.isBroken_label (service : Service) : isBroken service.label = false := by
  cases service <;> exact isBroken_ofList (by decide)

theorem Service.isBroken_name (service : Service) : isBroken service.name = false := by
  cases service <;> exact isBroken_ofList (by decide)

theorem Json.Expected.isBroken_text (expected : Expected) : isBroken expected.text = false := by
  cases expected <;> exact isBroken_ofList (by decide)

theorem Json.ReadFault.isBroken_message (text : List Char) (fault : ReadFault) :
    isBroken (fault.message text) = false := by
  cases fault with
  | grammar expected left =>
    have line : isBroken (expected.text ++ ": line " ++
        toString ((text.take (faultIndex text left)).count '\n' + 1)) = false :=
      isBroken_append (isBroken_append_ofList expected.isBroken_text (by decide))
        (isBroken_toString _)
    have column := isBroken_append
      (isBroken_append line (t := " column ") (isBroken_ofList (by decide)))
      (isBroken_toString
        (((text.take (faultIndex text left)).reverse.takeWhile (· != '\n')).length + 1))
    have index := isBroken_append
      (isBroken_append column (t := " (char ") (isBroken_ofList (by decide)))
      (isBroken_toString (faultIndex text left))
    exact isBroken_append_ofList index (by decide)
  | tooManyDigits digits =>
    have size := isBroken_append
      (s := "Exceeds the limit (4300 digits) for integer string conversion: value has ")
      (isBroken_ofList (by decide)) (isBroken_toString digits)
    exact isBroken_append_ofList
      (isBroken_append size (t := " digits; ") (isBroken_ofList (by decide))) (by decide)
  | tooNested container =>
    have named : isBroken container.name = false := by
      cases container <;> exact isBroken_ofList (by decide)
    exact isBroken_append_ofList (isBroken_append (isBroken_ofList (by decide)) named) (by decide)

theorem Schema.isBroken_headline (h : isBroken model = false) (violations : List Violation) :
    isBroken (headline model violations) = false := by
  have count := isBroken_append (isBroken_toString violations.length) (t := " validation ")
    (isBroken_ofList (by decide))
  unfold headline
  split
  · exact isBroken_append
      (isBroken_append_ofList (isBroken_append_ofList count (by decide)) (by decide)) h
  · exact isBroken_append
      (isBroken_append_ofList (isBroken_append_ofList count (by decide)) (by decide)) h

namespace OutputFault

variable {source : String} (h : isBroken source = false)

include h

theorem isBroken_noText : isBroken (noText source).message = false :=
  isBroken_append_ofList h (by decide)

theorem isBroken_notJson (hd : isBroken detail = false) :
    isBroken (notJson source detail).message = false :=
  isBroken_append (isBroken_append_ofList h (by decide)) hd

theorem isBroken_invalid (hm : isBroken model = false) (violations : List Schema.Violation) :
    isBroken (invalid source model violations).message = false :=
  isBroken_append
    (isBroken_append_ofList (isBroken_append (isBroken_ofList (by decide)) h) (by decide))
    (Schema.isBroken_headline hm violations)

omit h in
theorem isBroken_noContent (service : Service) : isBroken (noContent service).message = false :=
  isBroken_append_ofList service.isBroken_label (by decide)

end OutputFault

end PatchReview
