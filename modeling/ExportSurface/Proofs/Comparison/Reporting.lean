import ExportSurface.Proofs.Comparison.Printing
import ExportSurface.Proofs.Listing.Extraction
import ExportSurface.Proofs.Snapshot.Lines
import ExportSurface.Proofs.Snapshot.RoundTrip

/-!
# What reports say

The report for people has no marks around its names, and a name may look like a line of the report
itself. It still says which names are missing and which are new: the names of a group end with the
first empty line, and no name is an empty line.

* `Comparison.IsLegible`: all names of the comparison can be seen on lines of their own. All that
  snapshots and listings give are such names (`Snapshot.isLine_of_mem_decode`,
  `Listing.isLine_of_mem_records`).
* `Comparison.group_inj`: a group says which names it lists.
* `Comparison.names_of_report`: reports that are the same list the same names.
-/

namespace ExportSurface

/-! ## Names that are read -/

theorem Snapshot.isLine_of_mem_decode {t n : Text} (h : n ∈ decode t) : n.IsLine :=
  ⟨(listable_of_mem_decode h).ne_nil, (listable_of_mem_decode h).not_mem_line_feed⟩

theorem Listing.isLine_of_mem_records {p : Platform} {raw : Text} {r : SymbolRecord}
    (h : r ∈ records p raw) : r.name.IsLine := by
  obtain ⟨body, -, hr⟩ := List.mem_filterMap.1 h
  obtain ⟨_, -, _, _, -, -, hne, hblank, -⟩ := isFirstWord_of_names (names_of_record? hr)
  exact ⟨hne, fun hn => hblank '\n' hn (by decide)⟩

namespace Comparison

/-- The names of the comparison can be seen on lines of their own. -/
structure IsLegible (c : Comparison) : Prop where
  missing : ∀ n ∈ c.missing, n.IsLine
  added : ∀ n ∈ c.added, n.IsLine

/-! ## Groups -/

theorem group_of_not_isEmpty {names : SymbolSet} (h : ¬names.isEmpty) (heading : Text) :
    group heading names = heading ++ names.render := if_neg h

/-- **A group says which names it lists.** -/
theorem group_inj {heading : Text} {s s' : SymbolSet} (hheading : heading ≠ [])
    (h : ∀ n ∈ s, n.IsLine) (h' : ∀ n ∈ s', n.IsLine)
    (heq : group heading s = group heading s') : s = s' := by
  have hiff : s.isEmpty ↔ s'.isEmpty := by
    rw [← group_eq_nil_iff hheading, heq, group_eq_nil_iff hheading]
  by_cases hempty : s.isEmpty
  · rw [SymbolSet.isEmpty_iff.1 hempty, SymbolSet.isEmpty_iff.1 (hiff.1 hempty)]
  · rw [group_of_not_isEmpty hempty, group_of_not_isEmpty (mt hiff.2 hempty)] at heq
    have hrender : s.render ++ [] = s'.render ++ [] := by
      rw [List.append_nil, List.append_nil, List.append_cancel_left heq]
    exact (SymbolSet.render_append_inj h h' (by simp) (by simp) hrender).1

theorem missingHeading_append_ne (s t : Text) : missingHeading ++ s ≠ addedHeading ++ t := by
  intro h
  -- The headings differ in the first letter behind "There are ".
  have hletters : some 'm' = some 'n' := congrArg (·[10]?) h
  exact absurd hletters (by decide)

/-! ## Reports -/

variable {c c' : Comparison}

/-- The report of a comparison without missing names. -/
theorem report_of_isEmpty (h : c.missing.isEmpty) : c.report = group addedHeading c.added := by
  rw [report, group, if_pos h]
  rfl

/-- The report of a comparison with missing names. The empty line belongs to the new names, since it
is left out if there are none. -/
theorem report_of_not_isEmpty (h : ¬c.missing.isEmpty) :
    c.report = missingHeading ++ (c.missing.render ++ group ('\n' :: addedHeading) c.added) := by
  have hfull : (missingHeading ++ c.missing.render).isEmpty = false := by
    simp [missingHeading_ne_nil]
  rw [report, group_of_not_isEmpty h, hfull]
  by_cases hadded : c.added.isEmpty
  · simp [group, hadded]
  · have hgroup : (addedHeading ++ c.added.render).isEmpty = false := by simp [addedHeading_ne_nil]
    simp [group_of_not_isEmpty hadded, hgroup]

theorem head_group {heading : Text} {names : SymbolSet} :
    ∀ x ∈ (group ('\n' :: heading) names).head?, x = '\n' := by
  intro x hx
  unfold group at hx
  split at hx
  · cases hx
  · exact (Option.some.inj hx).symm

/-- A report with missing names is not one without: it starts with another heading. -/
theorem report_ne (h : ¬c.missing.isEmpty) (h' : c'.missing.isEmpty) : c.report ≠ c'.report := by
  rw [report_of_not_isEmpty h, report_of_isEmpty h']
  intro heq
  by_cases hadded : c'.added.isEmpty
  · rw [(group_eq_nil_iff addedHeading_ne_nil).2 hadded] at heq
    exact missingHeading_ne_nil (List.append_eq_nil_iff.1 heq).1
  · rw [group_of_not_isEmpty hadded addedHeading] at heq
    exact missingHeading_append_ne _ _ heq

/-- **Reports lose nothing.** Reports that are the same list the same missing and the same new names,
if the names can be seen on lines of their own; and all names of snapshots and of listings can. -/
theorem names_of_report :
    (∀ c c' : Comparison, c.IsLegible → c'.IsLegible → c.report = c'.report →
      c.missing = c'.missing ∧ c.added = c'.added) ∧
    (∀ t, ∀ n ∈ Snapshot.decode t, n.IsLine) ∧
    ∀ p raw, ∀ r ∈ Listing.records p raw, r.name.IsLine := by
  refine ⟨fun c c' h h' heq => ?_, fun _ _ => Snapshot.isLine_of_mem_decode,
    fun _ _ _ => Listing.isLine_of_mem_records⟩
  by_cases hempty : c.missing.isEmpty <;> by_cases hempty' : c'.missing.isEmpty
  · rw [report_of_isEmpty hempty, report_of_isEmpty hempty'] at heq
    exact ⟨(SymbolSet.isEmpty_iff.1 hempty).trans (SymbolSet.isEmpty_iff.1 hempty').symm,
      group_inj addedHeading_ne_nil h.added h'.added heq⟩
  · exact absurd heq.symm (report_ne hempty' hempty)
  · exact absurd heq (report_ne hempty hempty')
  · rw [report_of_not_isEmpty hempty, report_of_not_isEmpty hempty'] at heq
    obtain ⟨hmissing, hadded⟩ := SymbolSet.render_append_inj h.missing h'.missing head_group
      head_group (List.append_cancel_left heq)
    exact ⟨hmissing, group_inj (List.cons_ne_nil _ _) h.added h'.added hadded⟩

/-- A missing name that looks like the line above the new names. -/
theorem names_of_report_heading :
    let line : Text := "The following symbols are new to the object file:".toList
    let c := between (.ofList ["old".toList, line]) (.ofList ["new".toList])
    let c' : Comparison := ⟨.ofList [line, "old".toList, line], .ofList ["new".toList]⟩
    c.report = c'.report ∧ c.missing = c'.missing ∧ c.added = c'.added := by
  intro line c c'
  have hmissing : ∀ n ∈ [line, "old".toList, line], Text.IsLine n := by decide
  have hadded : ∀ n ∈ ["new".toList], Text.IsLine n := by decide
  have hlegible : c'.IsLegible := ⟨fun n hn => hmissing n (SymbolSet.mem_ofList.1 hn),
    fun n hn => hadded n (SymbolSet.mem_ofList.1 hn)⟩
  have heq : c = c' := by decide +kernel
  have hreport : c.report = c'.report := congrArg report heq
  exact ⟨hreport, names_of_report.1 c c' (heq ▸ hlegible) hlegible hreport⟩

end Comparison

end ExportSurface
