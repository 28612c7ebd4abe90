import ExportSurface.Proofs.IgnoreList.Merging
import ExportSurface.Proofs.Listing.Cutting

/-!
# Filtering records

A filter looks at each record by itself, so its result depends on which records there are and on
nothing else, and more ignored symbols take their names away and no others.

* `SymbolRecord.IsExport` says which records stand for exported functions, and
  `ExportFilter.admits_iff` that these are the ones a filter admits.
* `ExportFilter.apply_pushAll`: what becomes of a result if entries are offered to the ignore list.
* `ExportFilter.apply_exact` puts this together.
-/

namespace ExportSurface

/-- The record stands for an exported function. An export table has no other records. -/
inductive SymbolRecord.IsExport : Platform → SymbolRecord → Prop
  | listed (r : SymbolRecord) : IsExport .coff r
  | function {r : SymbolRecord} (hkind : r.kind = .function)
      (hbinding : r.binding = .global ∨ r.binding = .weak)
      (hsection : r.sectionName = ".text".toList) : IsExport .elf r

namespace ExportFilter

variable {f : ExportFilter} {p : Platform} {l : IgnoreList} {rs rs' : List SymbolRecord}

theorem admits_iff {r : SymbolRecord} : f.admits r ↔ r.IsExport f.platform := by
  obtain ⟨p, l⟩ := f
  cases p with
  | coff => exact ⟨fun _ => .listed r, fun _ => rfl⟩
  | elf =>
    have hbinding : r.binding.isExported ↔ r.binding = .global ∨ r.binding = .weak := by
      cases r.binding <;> decide
    simp only [admits, Bool.and_eq_true, decide_eq_true_eq, hbinding]
    constructor
    · rintro ⟨⟨hkind, hbinding⟩, hsection⟩
      exact .function hkind hbinding hsection
    · rintro (_ | ⟨hkind, hbinding, hsection⟩)
      exact ⟨⟨hkind, hbinding⟩, hsection⟩

/-- The names of the exported functions whose symbols are not ignored. -/
theorem mem_apply_iff {n : Text} :
    n ∈ f.apply rs ↔
      (∃ r ∈ rs, r.name = n ∧ r.IsExport f.platform) ∧ ∀ e ∈ f.ignored.entries, e.symbol ≠ n := by
  have hignored : n ∉ f.ignored ↔ ∀ e ∈ f.ignored.entries, e.symbol ≠ n := by
    rw [IgnoreList.mem_iff]
    simp only [not_exists, not_and, ne_eq]
  rw [mem_apply, hignored, and_comm]
  simp only [admits_iff, and_comm (b := _ = n)]

theorem apply_congr (h : ∀ r, r ∈ rs' ↔ r ∈ rs) : f.apply rs' = f.apply rs := by
  ext n
  simp only [mem_apply, h]

/-- **More ignored symbols take their names away**, and no others. -/
theorem apply_pushAll (p : Platform) (l : IgnoreList) (es : List IgnoreEntry)
    (rs : List SymbolRecord) :
    (⟨p, l.pushAll es⟩ : ExportFilter).apply rs =
      (⟨p, l⟩ : ExportFilter).apply rs \ .ofList (es.map IgnoreEntry.symbol) := by
  ext n
  have hadmits (r : SymbolRecord) :
      (⟨p, l.pushAll es⟩ : ExportFilter).admits r = (⟨p, l⟩ : ExportFilter).admits r := rfl
  rw [SymbolSet.mem_sdiff, mem_apply, mem_apply, IgnoreList.mem_pushAll, SymbolSet.mem_ofList,
    List.mem_map, not_or]
  simp only [hadmits]
  exact and_right_comm

/-- The symbols of a list are those of the entries that it was made of. -/
theorem symbols_ofList (es : List IgnoreEntry) :
    SymbolSet.ofList ((IgnoreList.ofList es).entries.map IgnoreEntry.symbol) =
      .ofList (es.map IgnoreEntry.symbol) := by
  ext n
  rw [SymbolSet.mem_ofList, SymbolSet.mem_ofList, List.mem_map, List.mem_map]
  exact IgnoreList.mem_iff.symm.trans IgnoreList.mem_ofList

/-- **A filter gives the exported functions that are not ignored.** So it does not see the order and the
number of the records, it gives of two lists what it gives of either, and ignoring more takes away
exactly the symbols that are ignored in addition, whether a list of them is merged or entries are
offered, with any reasons and as often as one likes. -/
theorem apply_exact (p : Platform) (l : IgnoreList) (rs : List SymbolRecord) :
    let apply (l : IgnoreList) := (⟨p, l⟩ : ExportFilter).apply
    (∀ n, n ∈ apply l rs ↔
      (∃ r ∈ rs, r.name = n ∧ r.IsExport p) ∧ ∀ e ∈ l.entries, e.symbol ≠ n) ∧
    (∀ rs', (∀ r, r ∈ rs' ↔ r ∈ rs) → apply l rs' = apply l rs) ∧
    (∀ rs', apply l (rs ++ rs') = apply l rs ∪ apply l rs') ∧
    (∀ m : IgnoreList, apply (l ++ m) rs = apply l rs \ .ofList (m.entries.map IgnoreEntry.symbol)) ∧
    ∀ es : List IgnoreEntry,
      apply (l.pushAll es) rs = apply l rs \ .ofList (es.map IgnoreEntry.symbol) ∧
      apply (l ++ .ofList es) rs = apply l rs \ .ofList (es.map IgnoreEntry.symbol) := by
  intro apply
  have hmerged (m : IgnoreList) :
      apply (l ++ m) rs = apply l rs \ .ofList (m.entries.map IgnoreEntry.symbol) :=
    apply_pushAll p l m.entries rs
  refine ⟨fun n => mem_apply_iff, fun rs' => apply_congr, apply_append _ rs, hmerged, fun es => ?_⟩
  exact ⟨apply_pushAll p l es rs, symbols_ofList es ▸ hmerged (.ofList es)⟩

/-- A name that one record has as a local symbol and two as a weak one. -/
theorem apply_exact_hiddenAndWeak :
    let hidden : SymbolRecord := ⟨"foo".toList, .localOnly, .function, ".text".toList⟩
    let weak : SymbolRecord := { hidden with binding := .weak }
    let f : ExportFilter := ⟨.elf, .ofList [⟨"bar".toList, []⟩]⟩
    f.apply [weak, hidden, weak] = f.apply [hidden, weak] ∧ "foo".toList ∈ f.apply [hidden, weak] := by
  intro hidden weak f
  obtain ⟨hmem, hset, -⟩ := apply_exact .elf f.ignored [hidden, weak]
  refine ⟨hset _ fun r => ?_, (hmem _).2 ⟨⟨weak, by simp, rfl, ?_⟩, ?_⟩⟩
  · simp only [List.mem_cons]
    tauto
  · exact .function rfl (.inr rfl) rfl
  · decide

end ExportFilter

end ExportSurface
