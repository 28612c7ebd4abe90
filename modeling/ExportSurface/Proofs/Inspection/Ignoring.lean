import ExportSurface.Proofs.Inspection.Rechecking

/-!
# Ignored names in verdicts

The ignore list is taken away from what a listing gives, and from nothing else: a reference is read as
it stands. So an ignored name is never new, and it is missing exactly if the reference lists it.

* `Inspector.not_mem_added_of_ignored` and `Inspector.mem_missing_of_ignored` say so for the comparison
  of a reference with what a listing gives.
* `Inspector.verdict_of_ignored` is the same for the verdicts of checks, and says how far two references
  that differ in ignored names can lead to different verdicts.
-/

namespace ExportSurface

theorem ExportFilter.not_mem_extract_of_ignored {f : ExportFilter} {raw n : Text} (h : n ∈ f.ignored) :
    n ∉ f.extract raw := fun hn => (mem_extract.1 hn).1 h

theorem Verdict.ofComparison_inj {c c' : Comparison} : ofComparison c = ofComparison c' ↔ c = c' := by
  refine ⟨fun h => ?_, congrArg ofComparison⟩
  rw [← comparison_ofComparison c, h, comparison_ofComparison]

namespace Inspector

/-! ## Comparisons with a listing -/

section

variable {f : ExportFilter} {expected expected' : SymbolSet} {raw n : Text}

theorem not_mem_added_of_ignored (h : n ∈ f.ignored) :
    n ∉ (Comparison.between expected (f.extract raw)).added := fun hn =>
  ExportFilter.not_mem_extract_of_ignored h (SymbolSet.mem_sdiff.1 hn).1

theorem mem_missing_of_ignored (h : n ∈ f.ignored) :
    n ∈ (Comparison.between expected (f.extract raw)).missing ↔ n ∈ expected := by
  rw [Comparison.between, SymbolSet.mem_sdiff]
  exact and_iff_left (ExportFilter.not_mem_extract_of_ignored h)

/-- References that agree on the names that are not ignored have the same new names. -/
theorem added_eq_of_agree (h : ∀ n, n ∉ f.ignored → (n ∈ expected ↔ n ∈ expected')) :
    (Comparison.between expected (f.extract raw)).added =
      (Comparison.between expected' (f.extract raw)).added := by
  ext n
  simp only [Comparison.between, SymbolSet.mem_sdiff]
  refine and_congr_right fun hn => not_congr (h n fun hignored => ?_)
  exact ExportFilter.not_mem_extract_of_ignored hignored hn

/-- References that agree on a name agree on whether it is missing. -/
theorem mem_missing_congr (h : n ∈ expected ↔ n ∈ expected') :
    n ∈ (Comparison.between expected (f.extract raw)).missing ↔
      n ∈ (Comparison.between expected' (f.extract raw)).missing := by
  simp only [Comparison.between, SymbolSet.mem_sdiff, h]

/-- References that agree on the names that are not ignored compare alike exactly if they agree on
the ignored names too. -/
theorem between_eq_iff_of_agree (h : ∀ n, n ∉ f.ignored → (n ∈ expected ↔ n ∈ expected')) :
    Comparison.between expected (f.extract raw) = Comparison.between expected' (f.extract raw) ↔
      ∀ n ∈ f.ignored, (n ∈ expected ↔ n ∈ expected') := by
  constructor
  · intro heq n hn
    have hmissing : n ∈ (Comparison.between expected (f.extract raw)).missing ↔ n ∈ expected :=
      mem_missing_of_ignored hn
    rw [← hmissing, heq, mem_missing_of_ignored hn]
  · intro hignored
    have hexpected : expected = expected' := by
      ext n
      by_cases hn : n ∈ f.ignored
      · exact hignored n hn
      · exact h n hn
    rw [hexpected]

end

/-! ## Verdicts -/

variable {i i' : Inspector} {t t' u u' : FileTree} {reference reference' target target' : Path}
  {raw text text' : Text}

/-- **Ignored names in verdicts.** For two checks of one listing with one filter: an ignored name is
never new, and it is missing exactly if the reference lists it. If the references agree on the names
that are not ignored, the new names are the same, the missing names differ in ignored ones at most,
and the verdicts are the same exactly if the references agree on the ignored names too. -/
theorem verdict_of_ignored (hfilter : i'.filter = i.filter)
    (hread : t.readText reference = .ok text) (hread' : t'.readText reference' = .ok text')
    (hsource : i.source t target = (.ok raw, u)) (hsource' : i'.source t' target' = (.ok raw, u')) :
    ∃ v v', (i.check t (some reference) target).answer = .ok v ∧
      (i'.check t' (some reference') target').answer = .ok v' ∧
      (∀ n ∈ i.filter.ignored, n ∉ v.comparison.added ∧
        (n ∈ v.comparison.missing ↔ n ∈ Snapshot.decode text)) ∧
      ((∀ n, n ∉ i.filter.ignored → (n ∈ Snapshot.decode text ↔ n ∈ Snapshot.decode text')) →
        v.comparison.added = v'.comparison.added ∧
        (∀ n, n ∉ i.filter.ignored → (n ∈ v.comparison.missing ↔ n ∈ v'.comparison.missing)) ∧
        (v = v' ↔ ∀ n ∈ i.filter.ignored,
          (n ∈ Snapshot.decode text ↔ n ∈ Snapshot.decode text'))) := by
  have hexpected : Snapshot.read t reference = .ok (Snapshot.decode text) := by
    rw [Snapshot.read, hread]
  have hexpected' : Snapshot.read t' reference' = .ok (Snapshot.decode text') := by
    rw [Snapshot.read, hread']
  refine ⟨_, _, check_of_read hexpected hsource, check_of_read hexpected' hsource', ?_⟩
  rw [hfilter, Verdict.ofComparison_inj, Verdict.comparison_ofComparison,
    Verdict.comparison_ofComparison]
  refine ⟨fun n hn => ⟨not_mem_added_of_ignored hn, mem_missing_of_ignored hn⟩, fun hagree => ?_⟩
  exact ⟨added_eq_of_agree hagree, fun n hn => mem_missing_congr (hagree n hn),
    between_eq_iff_of_agree hagree⟩

/-- An inspector of an export table that ignores the names of `ignored`. -/
def ofNamesIgnoring (names ignored : List String) : Inspector :=
  { source := .fixed (.ok (exportTable names))
    filter := ⟨.coff, .ofList (ignored.map fun n => ⟨n.toList, []⟩)⟩ }

theorem verdict_of_ignored_referenceTree :
    let i := ofNamesIgnoring ["foo", "new"] ["foo", "gone"]
    let answer (text : String) :=
      (i.check (referenceTree text) (some (.ofText ['r'])) (.ofText ['a'])).answer
    ∃ v v', answer "gone\nold\n" = .ok v ∧ answer "foo\nold\n" = .ok v' ∧
      "gone".toList ∈ v.comparison.missing ∧ "foo".toList ∉ v.comparison.added ∧
      v.comparison.added = v'.comparison.added ∧ v ≠ v' := by
  intro i answer
  have hread : (referenceTree "gone\nold\n").readText (.ofText ['r']) = .ok "gone\nold\n".toList := by
    decide +kernel
  have hread' : (referenceTree "foo\nold\n").readText (.ofText ['r']) = .ok "foo\nold\n".toList := by
    decide +kernel
  have hsource (text : String) : i.source (referenceTree text) (.ofText ['a']) =
      (.ok (exportTable ["foo", "new"]), referenceTree text) := rfl
  have hagree : ∀ n, n ∉ i.filter.ignored →
      (n ∈ Snapshot.decode "gone\nold\n".toList ↔ n ∈ Snapshot.decode "foo\nold\n".toList) := by
    intro n hn
    have hsymbols : i.filter.ignored.symbols = ["foo".toList, "gone".toList] := by decide +kernel
    have hne : n ∉ ["foo".toList, "gone".toList] := hsymbols ▸ hn
    have hfirst : Snapshot.decode "gone\nold\n".toList = .ofList ["gone".toList, "old".toList] := by
      decide +kernel
    have hsecond : Snapshot.decode "foo\nold\n".toList = .ofList ["foo".toList, "old".toList] := by
      decide +kernel
    rw [hfirst, hsecond]
    simp_all
  obtain ⟨v, v', hv, hv', hignored, hboth⟩ :=
    verdict_of_ignored rfl hread hread' (hsource _) (hsource _)
  obtain ⟨hadded, -, hsame⟩ := hboth hagree
  have hgone : "gone".toList ∈ v.comparison.missing :=
    (hignored _ (by decide +kernel)).2.2 (by decide +kernel)
  refine ⟨v, v', hv, hv', hgone, (hignored _ (by decide +kernel)).1, hadded, fun heq => ?_⟩
  have hfoo := (hsame.1 heq "foo".toList (by decide +kernel)).2 (by decide +kernel)
  exact absurd hfoo (by decide +kernel)

/-- A name that is recorded first and ignored later is reported as missing, though the library still
has it. Of two references that agree on all other names one diverges and the other one does not. -/
theorem ignored_name_missing :
    "foo".toList ∈ (ofNamesIgnoring ["foo"] ["foo"]).filter.ignored ∧
      answerAfterDump (ofNames ["foo"]) (ofNamesIgnoring ["foo"] ["foo"]) (linkedTree ⟨0o022⟩)
        (.ofText ['a']) (.ofText ['a']) (.ofText ['o']) =
          .ok (.diverged ⟨.ofList ["foo".toList], ∅⟩) ∧
      answerAfterDump (ofNames []) (ofNamesIgnoring ["foo"] ["foo"]) (linkedTree ⟨0o022⟩)
        (.ofText ['a']) (.ofText ['a']) (.ofText ['o']) = .ok .compatible := by
  decide +kernel

end Inspector

end ExportSurface
