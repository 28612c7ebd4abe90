import ExportSurface.Inspection
import ExportSurface.Proofs.FileTree.Replacing

/-!
# What inspections answer

The answers of a dump and of a check, read off the source, the files and the filter.

* `Verdict.comparison_ofComparison` and `Verdict.ofComparison_eq_compatible_iff`: a verdict holds
  its comparison, and is favourable exactly if the two sets are the same.
* `Inspector.extract_eq_ok_iff`: names are extracted from whole listings only.
* `Inspector.dump_eq_ok` and `Inspector.check_of_read`: a dump that succeeds, and a check by what
  became of its reference.
* `Inspector.DumpCourse` and `Inspector.CheckCourse` are the courses that a dump and a check can take,
  and `Inspector.dump_course` and `Inspector.check_course` say that they take one of them.
-/

namespace ExportSurface

/-! ## Verdicts -/

theorem SymbolSet.sdiff_eq_empty_iff {s u : SymbolSet} : s \ u = ∅ ↔ ∀ n ∈ s, n ∈ u := by
  constructor
  · intro h n hs
    by_contra hu
    exact SymbolSet.not_mem_empty n (h ▸ SymbolSet.mem_sdiff.2 ⟨hs, hu⟩)
  · intro h
    ext n
    simpa using h n

theorem Comparison.isCompatible_between_iff {reference current : SymbolSet} :
    (Comparison.between reference current).isCompatible ↔ reference = current := by
  simp only [Comparison.isCompatible, Comparison.between, Bool.and_eq_true, SymbolSet.isEmpty_iff,
    SymbolSet.sdiff_eq_empty_iff]
  constructor
  · exact fun h => SymbolSet.ext fun n => ⟨h.1 n, h.2 n⟩
  · rintro rfl
    exact ⟨fun _ hn => hn, fun _ hn => hn⟩

namespace Verdict

theorem comparison_ofComparison (c : Comparison) : (ofComparison c).comparison = c := by
  unfold ofComparison
  split
  · next h =>
    obtain ⟨missing, added⟩ := c
    obtain ⟨hmissing, hadded⟩ := Bool.and_eq_true_iff.1 h
    obtain rfl : missing = ∅ := SymbolSet.isEmpty_iff.1 hmissing
    obtain rfl : added = ∅ := SymbolSet.isEmpty_iff.1 hadded
    rfl
  · rfl

theorem ofComparison_eq_compatible_iff {reference current : SymbolSet} :
    ofComparison (.between reference current) = .compatible ↔ reference = current := by
  rw [← Comparison.isCompatible_between_iff, ofComparison]
  split
  · next h => simp [h]
  · next h => simp [h]

end Verdict

/-! ## References -/

/-- A snapshot that was written is read at the same path if the path is rereadable, and not
otherwise. -/
theorem Snapshot.read_of_replace {t t' : FileTree} {p : Path} {text : Text}
    (h : t.replace p (Utf8.encode text) = (.ok (), t')) :
    (t.Rereadable p → Snapshot.read t' p = .ok (Snapshot.decode text)) ∧
      (¬t.Rereadable p → ∃ cause, Snapshot.read t' p = .error (.referenceUnreadable p cause)) := by
  obtain ⟨hread, hfail⟩ := FileTree.readText_of_replace h
  constructor
  · intro hp
    rw [Snapshot.read, hread hp]
  · intro hp
    obtain ⟨cause, hcause⟩ := hfail hp
    exact ⟨cause, by rw [Snapshot.read, hcause]⟩

/-! ## Answers -/

namespace Inspector

variable {i : Inspector} {t t' : FileTree} {target reference output : Path} {raw : Text}
  {symbols expected : SymbolSet}

theorem extract_of_source (h : i.source t target = (.ok raw, t')) :
    i.extract t target = ⟨.ok (i.filter.extract raw), t', [target]⟩ := by
  rw [extract, h]

/-- The names of a library are those of the listing that the source gives. -/
theorem extract_eq_ok_iff :
    (i.extract t target).answer = .ok symbols ↔
      ∃ raw, (i.source t target).1 = .ok raw ∧ symbols = i.filter.extract raw := by
  rw [extract]
  rcases i.source t target with ⟨e | raw, t'⟩
  · simp
  · simp [eq_comm]

/-- What a dump that succeeds gives and writes. -/
theorem dump_eq_ok (hsource : i.source t target = (.ok raw, t'))
    (h : (i.dump t target (some output)).answer = .ok symbols) :
    symbols = i.filter.extract raw ∧
      t'.replace output (Utf8.encode (i.snapshotOf target symbols)) =
        (.ok (), (i.dump t target (some output)).files) := by
  simp only [dump, extract_of_source hsource] at h ⊢
  cases hwrite : t'.replace output (Utf8.encode (i.snapshotOf target (i.filter.extract raw))) with
  | mk result t'' =>
    cases result with
    | error cause => simp [Snapshot.write, hwrite] at h
    | ok _ =>
      simp only [Snapshot.write, hwrite, Except.ok.injEq] at h ⊢
      subst h
      exact ⟨rfl, hwrite⟩

theorem check_of_read (hread : Snapshot.read t reference = .ok expected)
    (hsource : i.source t target = (.ok raw, t')) :
    (i.check t (some reference) target).answer =
      .ok (.ofComparison (.between expected (i.filter.extract raw))) := by
  simp only [check, hread, extract_of_source hsource]

theorem check_of_text {text : Text} (hread : t.readText reference = .ok text)
    (hsource : i.source t target = (.ok raw, t')) :
    (i.check t (some reference) target).answer =
      .ok (.ofComparison (.between (Snapshot.decode text) (i.filter.extract raw))) :=
  check_of_read (by rw [Snapshot.read, hread]) hsource

theorem check_of_unread {e : Failure} (hread : Snapshot.read t reference = .error e) :
    (i.check t (some reference) target).answer = .error e := by
  simp only [check, hread]

/-! ## Courses -/

/-- The courses of a dump, by how far it comes. -/
inductive DumpCourse (i : Inspector) (t : FileTree) (target : Path) (refusals : FileTree.Refusals) :
    Option Path → Outcome SymbolSet → Prop
  | optionMissing : DumpCourse i t target refusals none ⟨.error (.optionMissing .dump), t, []⟩
  | noListing {output : Path} {t' : FileTree} {e : Failure}
      (hsource : i.source t target = (.error e, t')) :
      DumpCourse i t target refusals (some output) ⟨.error e, t', [target]⟩
  | unwritten {output : Path} {t' : FileTree} {raw : Text} {cause : SystemError}
      (hsource : i.source t target = (.ok raw, t'))
      (hwrite : t'.replace output
        (Utf8.encode (i.snapshotOf target (i.filter.extract raw))) refusals = (.error cause, t')) :
      DumpCourse i t target refusals (some output)
        ⟨.error (.snapshotUnwritable output cause), t', [target]⟩
  | written {output : Path} {t' t'' : FileTree} {raw : Text}
      (hsource : i.source t target = (.ok raw, t'))
      (hwrite : t'.replace output
        (Utf8.encode (i.snapshotOf target (i.filter.extract raw))) refusals = (.ok (), t'')) :
      DumpCourse i t target refusals (some output) ⟨.ok (i.filter.extract raw), t'', [target]⟩

theorem dump_course (i : Inspector) (t : FileTree) (target : Path) (output : Option Path)
    (refusals : FileTree.Refusals) :
    i.DumpCourse t target refusals output (i.dump t target output refusals) := by
  cases output with
  | none => exact .optionMissing
  | some output =>
    cases hsource : i.source t target with
    | mk answer t' =>
      cases answer with
      | error e =>
        have h : i.dump t target (some output) refusals = ⟨.error e, t', [target]⟩ := by
          simp only [dump, extract, hsource]
        exact h ▸ .noListing hsource
      | ok raw =>
        cases hwrite : t'.replace output
            (Utf8.encode (i.snapshotOf target (i.filter.extract raw))) refusals with
        | mk result t'' =>
          cases result with
          | error cause =>
            obtain rfl := FileTree.replace_eq_error hwrite
            have h : i.dump t target (some output) refusals =
                ⟨.error (.snapshotUnwritable output cause), t'', [target]⟩ := by
              simp only [dump, extract_of_source hsource, Snapshot.write, hwrite]
            exact h ▸ .unwritten hsource hwrite
          | ok _ =>
            have h : i.dump t target (some output) refusals =
                ⟨.ok (i.filter.extract raw), t'', [target]⟩ := by
              simp only [dump, extract_of_source hsource, Snapshot.write, hwrite]
            exact h ▸ .written hsource hwrite

/-- The courses of a check, by how far it comes. -/
inductive CheckCourse (i : Inspector) (t : FileTree) (target : Path) :
    Option Path → Outcome Verdict → Prop
  | optionMissing : CheckCourse i t target none ⟨.error (.optionMissing .check), t, []⟩
  | noReference {reference : Path} {cause : SystemError}
      (hread : t.readText reference = .error cause) :
      CheckCourse i t target (some reference) ⟨.error (.referenceUnreadable reference cause), t, []⟩
  | noListing {reference : Path} {text : Text} {t' : FileTree} {e : Failure}
      (hread : t.readText reference = .ok text) (hsource : i.source t target = (.error e, t')) :
      CheckCourse i t target (some reference) ⟨.error e, t', [target]⟩
  | compared {reference : Path} {text raw : Text} {t' : FileTree}
      (hread : t.readText reference = .ok text) (hsource : i.source t target = (.ok raw, t')) :
      CheckCourse i t target (some reference)
        ⟨.ok (.ofComparison (.between (Snapshot.decode text) (i.filter.extract raw))), t', [target]⟩

theorem check_course (i : Inspector) (t : FileTree) (target : Path) (reference : Option Path) :
    i.CheckCourse t target reference (i.check t reference target) := by
  cases reference with
  | none => exact .optionMissing
  | some reference =>
    cases hread : t.readText reference with
    | error cause =>
      have h : i.check t (some reference) target =
          ⟨.error (.referenceUnreadable reference cause), t, []⟩ := by
        simp only [check, Snapshot.read, hread]
      exact h ▸ .noReference hread
    | ok text =>
      cases hsource : i.source t target with
      | mk answer t' =>
        cases answer with
        | error e =>
          have h : i.check t (some reference) target = ⟨.error e, t', [target]⟩ := by
            simp only [check, Snapshot.read, hread, extract, hsource]
          exact h ▸ .noListing hread hsource
        | ok raw =>
          have h : i.check t (some reference) target =
              ⟨.ok (.ofComparison (.between (Snapshot.decode text) (i.filter.extract raw))), t',
                [target]⟩ := by
            simp only [check, Snapshot.read, hread, extract_of_source hsource]
          exact h ▸ .compared hread hsource

/-- When a check gets a result, and which. -/
theorem check_eq_ok_iff {v : Verdict} :
    (i.check t (some reference) target).answer = .ok v ↔ ∃ text raw, t.readText reference = .ok text ∧
      (i.source t target).1 = .ok raw ∧
      v = .ofComparison (.between (Snapshot.decode text) (i.filter.extract raw)) := by
  constructor
  · intro h
    have hcourse := i.check_course t target (some reference)
    generalize i.check t (some reference) target = o at h hcourse
    cases hcourse with
    | noReference hread => cases h
    | noListing hread hs => cases h
    | compared hread hs => exact ⟨_, _, hread, congrArg Prod.fst hs, (Except.ok.inj h).symm⟩
  · rintro ⟨text, raw, hread, hraw, rfl⟩
    exact check_of_text hread (Prod.ext hraw rfl)

end Inspector

end ExportSurface
