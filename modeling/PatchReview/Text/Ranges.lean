/-!
# Sets and maps of code points

Unicode properties are stored as closed ranges of code points, and letter
mappings as runs with a constant distance to their image.
-/

namespace PatchReview.Text

abbrev Ranges := List (Nat × Nat)

def Ranges.has (ranges : Ranges) (code : Nat) : Bool :=
  ranges.any fun range => range.1 ≤ code && code ≤ range.2

/-- Code points `first, first + step, …, last`, sent to `image, image + step, …`. -/
structure Run where
  first : Nat
  last : Nat
  step : Nat
  image : Nat

def Run.covers (run : Run) (code : Nat) : Bool :=
  run.first ≤ code && code ≤ run.last && (code - run.first) % run.step == 0

/-- The image under the first run that covers the code point, else itself. -/
def Run.apply (runs : List Run) (code : Nat) : Nat :=
  match runs.find? (·.covers code) with
  | some run => run.image + (code - run.first)
  | none => code

end PatchReview.Text
