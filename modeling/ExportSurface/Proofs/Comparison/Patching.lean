import ExportSurface.Proofs.Comparison.Printing
import ExportSurface.Proofs.Inspection.Answers
import Mathlib.Tactic.TFAE

/-!
# Comparisons as patches

A comparison takes the reference to the current set: the missing names go and the new ones come. It
has no other names, so it is the only way to say what changed.

* `Comparison.IsPatch`: the comparison takes one set to the other, and each name that it calls missing
  or new is in one of them only. `Comparison.isPatch_iff`: only `Comparison.between` does that.
* `Comparison.missing_between_trans`: what is missing after two changes was missing after one of
  them.
* `Comparison.between_exact` puts this together with the ways in which the verdict is told.
-/

namespace ExportSurface

namespace Comparison

/-- The set that comes of a set if the missing names go and the new ones come. -/
def patch (c : Comparison) (s : SymbolSet) : SymbolSet := (s \ c.missing) ∪ c.added

/-- The comparison of the current set with the reference. -/
def swap (c : Comparison) : Comparison := ⟨c.added, c.missing⟩

/-- The comparison takes the reference to the current set, and a name that it calls missing or new
is in one of the two sets only. -/
structure IsPatch (reference current : SymbolSet) (c : Comparison) : Prop where
  missing_subset : ∀ n ∈ c.missing, n ∈ reference
  missing_disjoint : ∀ n ∈ c.missing, n ∉ current
  added_subset : ∀ n ∈ c.added, n ∈ current
  added_disjoint : ∀ n ∈ c.added, n ∉ reference
  patch_eq : c.patch reference = current

variable {reference current : SymbolSet} {c : Comparison}

theorem mem_patch {s : SymbolSet} {n : Text} :
    n ∈ c.patch s ↔ n ∈ s ∧ n ∉ c.missing ∨ n ∈ c.added := by
  rw [patch, SymbolSet.mem_union, SymbolSet.mem_sdiff]

theorem mem_missing_between {n : Text} :
    n ∈ (between reference current).missing ↔ n ∈ reference ∧ n ∉ current :=
  SymbolSet.mem_sdiff

theorem mem_added_between {n : Text} :
    n ∈ (between reference current).added ↔ n ∈ current ∧ n ∉ reference :=
  SymbolSet.mem_sdiff

theorem swap_between (reference current : SymbolSet) :
    (between reference current).swap = between current reference := rfl

/-! ## The one patch -/

theorem patch_between (reference current : SymbolSet) :
    (between reference current).patch reference = current := by
  ext n
  rw [mem_patch, mem_missing_between, mem_added_between]
  by_cases hr : n ∈ reference <;> by_cases hc : n ∈ current <;> simp [hr, hc]

theorem isPatch_between (reference current : SymbolSet) :
    IsPatch reference current (between reference current) where
  missing_subset _ hn := (mem_missing_between.1 hn).1
  missing_disjoint _ hn := (mem_missing_between.1 hn).2
  added_subset _ hn := (mem_added_between.1 hn).1
  added_disjoint _ hn := (mem_added_between.1 hn).2
  patch_eq := patch_between reference current

/-- A name of the reference that is not current has to go: nothing else takes it out. -/
theorem IsPatch.mem_missing_iff (h : IsPatch reference current c) {n : Text} :
    n ∈ c.missing ↔ n ∈ reference ∧ n ∉ current := by
  constructor
  · exact fun hn => ⟨h.missing_subset n hn, h.missing_disjoint n hn⟩
  · rintro ⟨hr, hc⟩
    by_contra hn
    have hkept : n ∈ c.patch reference := mem_patch.2 (.inl ⟨hr, hn⟩)
    exact hc (h.patch_eq ▸ hkept)

/-- A current name that the reference does not have has to come: nothing else puts it in. -/
theorem IsPatch.mem_added_iff (h : IsPatch reference current c) {n : Text} :
    n ∈ c.added ↔ n ∈ current ∧ n ∉ reference := by
  constructor
  · exact fun hn => ⟨h.added_subset n hn, h.added_disjoint n hn⟩
  · rintro ⟨hc, hr⟩
    have hput : n ∈ c.patch reference := h.patch_eq.symm ▸ hc
    exact (mem_patch.1 hput).resolve_left fun hkept => hr hkept.1

/-- **The comparison of two sets is the only patch** from the one to the other. -/
theorem isPatch_iff : IsPatch reference current c ↔ c = between reference current := by
  constructor
  · intro h
    obtain ⟨missing, added⟩ := c
    obtain rfl : missing = reference \ current :=
      SymbolSet.ext fun n => h.mem_missing_iff.trans SymbolSet.mem_sdiff.symm
    obtain rfl : added = current \ reference :=
      SymbolSet.ext fun n => h.mem_added_iff.trans SymbolSet.mem_sdiff.symm
    rfl
  · rintro rfl
    exact isPatch_between reference current

/-! ## Two changes -/

/-- **What is missing after two changes** was missing after the first or after the second. -/
theorem missing_between_trans (first second third : SymbolSet) :
    ∀ n ∈ (between first third).missing,
      n ∈ (between first second).missing ∪ (between second third).missing := by
  intro n hn
  obtain ⟨hfirst, hthird⟩ := mem_missing_between.1 hn
  rw [SymbolSet.mem_union, mem_missing_between, mem_missing_between]
  by_cases hsecond : n ∈ second
  · exact .inr ⟨hsecond, hthird⟩
  · exact .inl ⟨hfirst, hsecond⟩

/-! ## All laws -/

/-- **The comparison is an exact patch.** It is the only pair that takes the reference to the current
set and has no other names; comparing the other way round swaps its sides; and what is missing after
two changes was missing after one of them. The verdict, the equality of the sets, the empty report,
the document and its printed member say the same. -/
theorem between_exact (reference current : SymbolSet) :
    let c := between reference current
    (∀ c', IsPatch reference current c' ↔ c' = c) ∧ between current reference = c.swap ∧
      [c.isCompatible = true, reference = current, c.report = [],
        (ComparisonDocument.ofComparison c).compatible = true,
        (ComparisonDocument.ofComparison c).Says ComparisonDocument.compatibleKey (.bool true)].TFAE ∧
      ∀ third, ∀ n ∈ (between reference third).missing,
        n ∈ c.missing ∪ (between current third).missing := by
  intro c
  refine ⟨fun c' => isPatch_iff, (swap_between reference current).symm, ?_,
    fun third => missing_between_trans reference current third⟩
  tfae_have 1 ↔ 2 := isCompatible_between_iff
  tfae_have 3 ↔ 1 := report_eq_nil_iff
  tfae_have 4 ↔ 1 := Iff.rfl
  tfae_have 5 ↔ 4 := ComparisonDocument.says_compatible_iff
  tfae_finish

/-- A name goes and another comes, and then all go. -/
theorem between_exact_renamed :
    let reference := SymbolSet.ofList ["bar".toList, "foo".toList]
    let current := SymbolSet.ofList ["baz".toList, "foo".toList]
    (between reference current).patch reference = current ∧
      "bar".toList ∈ (between reference ∅).missing ∧
      "bar".toList ∈ (between reference current).missing ∪ (between current ∅).missing := by
  intro reference current
  obtain ⟨hpatch, -, -, htrans⟩ := between_exact reference current
  have hmissing : "bar".toList ∈ (between reference ∅).missing := by decide +kernel
  exact ⟨((hpatch _).2 rfl).patch_eq, hmissing, htrans ∅ _ hmissing⟩

end Comparison

end ExportSurface
