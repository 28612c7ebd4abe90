import ExportSurface.Proofs.Inspection.Rechecking

/-!
# Dumps that fail

A dump can fail at many points: its option may be missing, the source may have no listing, and each
step of writing the snapshot may be refused, by the entries of the tree or for another reason. Wherever
it fails, the files are afterwards what they were before.

* `Inspector.failed_dump_changes_nothing` says so, and which failures there are.
-/

namespace ExportSurface.Inspector

variable {i : Inspector} {t : FileTree} {target : Path} {output : Option Path}
  {refusals : FileTree.Refusals} {e : Failure}

/-- **A dump that fails changes nothing**, if the source changes nothing. The failure is the missing
option, that of the source, or that of writing the snapshot. -/
theorem failed_dump_changes_nothing (hsource : (i.source t target).2 = t)
    (h : (i.dump t target output refusals).answer = .error e) :
    (i.dump t target output refusals).files = t ∧
      (output = none ∧ e = .optionMissing .dump ∨
        output ≠ none ∧ (i.source t target).1 = .error e ∨
        ∃ p cause, output = some p ∧ e = .snapshotUnwritable p cause) := by
  have hcourse := i.dump_course t target output refusals
  generalize i.dump t target output refusals = o at h hcourse ⊢
  cases hcourse with
  | optionMissing =>
    obtain rfl := Except.error.inj h
    exact ⟨rfl, .inl ⟨rfl, rfl⟩⟩
  | noListing hs =>
    obtain rfl := Except.error.inj h
    rw [hs] at hsource ⊢
    exact ⟨hsource, .inr (.inl ⟨by simp, rfl⟩)⟩
  | unwritten hs hwrite =>
    obtain rfl := Except.error.inj h
    rw [hs] at hsource
    exact ⟨hsource, .inr (.inr ⟨_, _, rfl, rfl⟩)⟩
  | written hs hwrite => cases h

/-- Onto a directory, with the scratch file in place already; onto a link to a directory, whose mode
cannot be taken over; and onto a disk that fails at the end. -/
theorem failed_dump_changes_nothing_linkedTree :
    let t := linkedTree ⟨0o022⟩
    let dump (output : Char) (refusals : FileTree.Refusals) :=
      (ofNames ["foo"]).dump t (.ofText ['a']) (some (.ofText [output])) refusals
    (dump 'd' {}).answer = .error (.snapshotUnwritable (.ofText ['d']) .isADirectory) ∧
      (dump 'd' {}).files = t ∧
      (dump 'l' { changingMode := some .notPermitted }).answer =
        .error (.snapshotUnwritable (.ofText ['l']) .notPermitted) ∧
      (dump 'l' { changingMode := some .notPermitted }).files = t ∧
      (dump 'o' { moving := some .busy }).answer =
        .error (.snapshotUnwritable (.ofText ['o']) .busy) ∧
      (dump 'o' { moving := some .busy }).files = t := by
  intro t dump
  have hdirectory : (dump 'd' {}).answer =
      .error (.snapshotUnwritable (.ofText ['d']) .isADirectory) := by decide +kernel
  have hmode : (dump 'l' { changingMode := some .notPermitted }).answer =
      .error (.snapshotUnwritable (.ofText ['l']) .notPermitted) := by decide +kernel
  have hmove : (dump 'o' { moving := some .busy }).answer =
      .error (.snapshotUnwritable (.ofText ['o']) .busy) := by decide +kernel
  exact ⟨hdirectory, (failed_dump_changes_nothing rfl hdirectory).1,
    hmode, (failed_dump_changes_nothing rfl hmode).1,
    hmove, (failed_dump_changes_nothing rfl hmove).1⟩

end ExportSurface.Inspector
