import PatchReview.Disk

/-!
# Files that were written

A file that was written can be read under the same path (`read_write`): the
way there goes through directories, and those do not change.
-/

namespace PatchReview.Disk

variable {disk written : Disk} {here there place : List String} {octets : List UInt8}

def withFile (disk : Disk) (there : List String) (octets : List UInt8) : Disk :=
  { disk with files := (there, octets) :: disk.files.filter (·.1 != there) }

theorem hasDirectory_withFile (disk : Disk) (there : List String) (octets : List UInt8)
    (place : List String) :
    (disk.withFile there octets).hasDirectory place = disk.hasDirectory place := rfl

theorem entry_eq_directory :
    disk.entry here name = .ok .directory ↔
      ¬nameLimit < name.utf8ByteSize ∧ disk.hasDirectory (here ++ [name]) = true := by
  simp only [entry]
  split
  · next long => simp [long]
  · next short =>
    split
    · next directory => simp [short, directory]
    · next other => cases disk.files.lookup (here ++ [name]) <;> simp [other]

theorem entry_withFile (octets : List UInt8) (h : disk.entry here name = .ok found)
    (noDirectory : found ≠ .directory) :
    (disk.withFile (here ++ [name]) octets).entry here name = .ok (.file octets) := by
  simp only [entry] at h ⊢
  split at h
  · cases h
  · next short =>
    split at h
    · cases h
      exact absurd rfl noDirectory
    · next other =>
      rw [if_neg short, if_neg (by rw [hasDirectory_withFile]; exact other)]
      simp [withFile]

theorem enter_withFile (there : List String) (octets : List UInt8)
    (h : disk.enter here steps = .ok place) :
    (disk.withFile there octets).enter here steps = .ok place := by
  fun_induction disk.enter here steps with
  | case1 => exact h
  | case2 _ _ ih => exact ih h
  | case3 _ _ ih => exact ih h
  | case4 here name rest other dots ih =>
    cases found : disk.entry here name with
    | error fault =>
      rw [found] at h
      cases h
    | ok entry =>
      rw [found] at h
      cases entry with
      | file | absent => cases h
      | directory =>
        have still : (disk.withFile there octets).entry here name = .ok .directory := by
          obtain ⟨short, directory⟩ := entry_eq_directory.mp found
          exact entry_eq_directory.mpr ⟨short, directory⟩
        rw [enter, still]
        · exact ih h
        · exact other
        · exact dots

theorem locate_withFile (octets : List UInt8) (walk : Walk)
    (h : disk.locate walk = .ok (found, there)) (noDirectory : found ≠ .directory) :
    (disk.withFile there octets).locate walk = .ok (.file octets, there) := by
  unfold locate at h ⊢
  cases entered : disk.enter walk.start walk.before with
  | error fault =>
    rw [entered] at h
    cases h
  | ok here =>
    rw [entered] at h
    rw [enter_withFile there octets entered]
    simp only [bind, Except.bind] at h ⊢
    split at h
    · cases h
      exact absurd rfl noDirectory
    · next name last =>
      split at h
      · cases h
        exact absurd rfl noDirectory
      · next named =>
        split at h
        · cases h
        · next at_there =>
          cases h
          rw [if_neg named, entry_withFile octets at_there noDirectory]
          rfl

/-- What writing does: the path leads to a place that is no directory, and a
file is put there. -/
theorem write_eq_ok (h : disk.write path octets = .ok written) :
    ¬pathLimit ≤ path.utf8ByteSize ∧ (Walk.ofString path).endsInSlash = false ∧
      ∃ found there, disk.locate (Walk.ofString path) = .ok (found, there) ∧ found ≠ .directory ∧
        written = disk.withFile there octets := by
  unfold write at h
  split at h
  · cases h
  · next short =>
    dsimp only at h
    cases entered : disk.enter (Walk.ofString path).start (Walk.ofString path).before with
    | error fault =>
      rw [entered] at h
      cases h
    | ok here =>
      have same : disk.locate ⟨here, [], (Walk.ofString path).last,
          (Walk.ofString path).endsInSlash⟩ = disk.locate (Walk.ofString path) := by
        unfold locate
        rw [entered]
        rfl
      rw [entered] at h
      simp only [bind, Except.bind, same] at h
      split at h
      · cases h
      · next noSlash =>
        cases located : disk.locate (Walk.ofString path) with
        | error fault =>
          rw [located] at h
          cases h
        | ok place =>
          obtain ⟨found, there⟩ := place
          rw [located] at h
          refine ⟨short, by simpa using noSlash, found, there, rfl, ?_, ?_⟩
          · rintro rfl
            cases h
          · cases found <;> cases h <;> rfl

theorem read_write (h : disk.write path octets = .ok written) : written.read path = .ok octets := by
  obtain ⟨short, noSlash, found, there, located, noDirectory, rfl⟩ := write_eq_ok h
  unfold read
  rw [if_neg short, locate_withFile octets _ located noDirectory]
  simp only [noSlash]
  rfl

end PatchReview.Disk
