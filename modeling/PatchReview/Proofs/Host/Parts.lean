import PatchReview.Host.Listing
import PatchReview.Proofs.Session

/-!
# What carries over to listings

Some properties of actions carry over from the parts of an action to the whole. Such a property
holds of all that is done with the entries of a page if it holds of the requests for contents, and
of a listing if it also holds of the requests for pages.
-/

namespace PatchReview

/-- A property of actions that the whole has if its parts have it. Logging has it too. -/
structure CarriesOver (P : ∀ α : Type, Action Session α → Prop) : Prop where
  ofExcept : ∀ {α} (result : Except Failure α), P α (Action.ofExcept result)
  bind : ∀ {α β} {x : Action Session α} {f : α → Action Session β}, P α x → (∀ a, P β (f a)) →
    P β (x >>= f)
  outcome : ∀ {α} {x : Action Session α}, P α x → P (Except Failure α) x.outcome
  note : ∀ level text, P PUnit (modify (Session.note level text))
  infoOf : ∀ text, P Unit (Session.infoOf text)

namespace CarriesOver

open Host

variable {P : ∀ α : Type, Action Session α → Prop} (carries : CarriesOver P)

include carries

theorem pure (a : α) : P α (Pure.pure a) := carries.ofExcept (.ok a)

theorem throw {α : Type} (failure : Failure) : P α (throw failure) :=
  carries.ofExcept (.error failure)

variable {host : Host} {repo number ref : Json}

section

variable (contents : ∀ place, P Json (host.request .get place (some [("ref", ref)]) none))

include contents

theorem contentsOrWarning (path : String) : P _ (host.contentsOrWarning repo path ref) := by
  have fetch : P _ (host.fileContents repo path ref) :=
    carries.bind (carries.ofExcept _) fun _ => carries.bind (contents _) fun _ => carries.ofExcept _
  refine carries.bind (carries.outcome fetch) fun result => ?_
  cases result with
  | ok contents => exact carries.pure _
  | error failure =>
    dsimp only
    split
    · exact carries.bind (carries.note _ _) fun _ => carries.pure _
    · exact carries.throw _

theorem listEntry (entry : Json) : P _ (host.listEntry repo ref entry) := by
  refine carries.bind (carries.ofExcept _) fun listed => ?_
  cases listed with
  | tooLarge => exact carries.bind (carries.infoOf _) fun _ => carries.pure _
  | notAnalyzable => exact carries.pure _
  | file filename status patch =>
    have file (contents : Option String) : P (Option ChangedFile) (do
        let file ← Action.ofExcept (changedFile filename status patch contents)
        return some file) := carries.bind (carries.ofExcept _) fun _ => carries.pure _
    dsimp only
    split
    · exact carries.bind (carries.pure _) file
    · exact carries.bind (carries.contentsOrWarning contents filename) file

theorem listEntries (entries : List Json) : P _ (host.listEntries repo ref entries) := by
  induction entries with
  | nil => exact carries.pure _
  | cons entry rest ih =>
    exact carries.bind (carries.listEntry contents entry) fun _ =>
      carries.bind ih fun _ => carries.pure _

theorem afterPage {page left : Nat} (others : P _ (host.listPages repo number ref page left))
    (answer : Json) :
    P (List ChangedFile) (do
      let entries ← Action.ofExcept (pageEntries answer)
      let files ← host.listEntries repo ref entries
      if entries.length < pageSize then return files
      else
        let others ← host.listPages repo number ref page left
        return files ++ others) := by
  refine carries.bind (carries.ofExcept _) fun entries =>
    carries.bind (carries.listEntries contents entries) fun files => ?_
  split
  · exact carries.pure _
  · exact carries.bind others fun _ => carries.pure _

theorem listPages
    (pages : ∀ page : Nat, P Json (host.request .get (filesPath repo number)
      (some [("per_page", .int pageSize), ("page", .int page)]) none)) (page left : Nat) :
    P _ (host.listPages repo number ref page left) := by
  induction left generalizing page with
  | zero => exact carries.pure _
  | succ left ih => exact carries.bind (pages page) (carries.afterPage contents (ih (page + 1)))

end

end CarriesOver

end PatchReview
