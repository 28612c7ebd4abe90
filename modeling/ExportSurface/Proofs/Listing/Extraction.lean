import ExportSurface.Inspection
import ExportSurface.Proofs.Listing.Fields
import ExportSurface.Proofs.Listing.Scan

/-!
# Extraction is sound and complete

Which names come out of a listing, said of its blocks and not of the readers.

* `Names p body n`: a block of the platform with this body names `n`; `Admitted p body`: what else
  it says makes its symbol an exported function. `exists_record_iff` is the reader of records
  against the two.
* `ExportFilter.exists_scan_mem_extract_iff` is the whole: the extracted names are those that the
  blocks of a scan name and admit, less the ignored ones.
-/

namespace ExportSurface

namespace Listing

/-! ## What a block says -/

/-- A block with this body names `n`. A symbol table writes a place in the string table behind the
name. -/
def Names : Platform → Text → Text → Prop
  | .elf, body, n => ∃ value rest, IsField "Name".toList body value ∧ Unplaced value rest ∧
      Text.IsFirstWord n rest
  | .coff, body, n => Says "Name".toList body n

/-- What a block with this body says besides the name is what exported functions say. An export
table lists nothing else. -/
def Admitted : Platform → Text → Prop
  | .elf, body => (Says "Binding".toList body "Global".toList ∨
        Says "Binding".toList body "Weak".toList) ∧
      Says "Type".toList body "Function".toList ∧ Says "Section".toList body ".text".toList
  | .coff, _ => True

theorem isLabel_name : IsLabel "Name".toList := ⟨by decide, by simp⟩

theorem isLabel_binding : IsLabel "Binding".toList := ⟨by decide, by simp⟩

theorem isLabel_type : IsLabel "Type".toList := ⟨by decide, by simp⟩

theorem isLabel_section : IsLabel "Section".toList := ⟨by decide, by simp⟩

/-! ## Words that count -/

theorem isExported_ofWord_iff {w : Text} :
    (Binding.ofWord w).isExported ↔ w = "Global".toList ∨ w = "Weak".toList := by
  unfold Binding.ofWord
  split
  · next h => simp [h, Binding.isExported]
  · next hg =>
    split
    · next h => simp [h, Binding.isExported]
    · next hw =>
      simp only [hg, hw, or_self, iff_false]
      split <;> simp [Binding.isExported]

theorem ofWord_eq_function_iff {w : Text} :
    SymbolKind.ofWord w = .function ↔ w = "Function".toList := by
  unfold SymbolKind.ofWord
  split
  · next h => simp [h]
  · next h =>
    simp only [h, iff_false]
    split <;> simp

theorem binding_isExported_iff {body : Text} :
    ((fieldWord? "Binding".toList body).map Binding.ofWord |>.getD .unknown).isExported ↔
      Says "Binding".toList body "Global".toList ∨ Says "Binding".toList body "Weak".toList := by
  rw [← fieldWord?_eq_some_iff isLabel_binding, ← fieldWord?_eq_some_iff isLabel_binding]
  cases fieldWord? "Binding".toList body with
  | none => simp [Binding.isExported]
  | some w => simpa using isExported_ofWord_iff

theorem kind_eq_function_iff {body : Text} :
    ((fieldWord? "Type".toList body).map SymbolKind.ofWord |>.getD .unknown) = .function ↔
      Says "Type".toList body "Function".toList := by
  rw [← fieldWord?_eq_some_iff isLabel_type]
  cases fieldWord? "Type".toList body with
  | none => simp
  | some w => simpa using ofWord_eq_function_iff

theorem sectionName_eq_iff {body : Text} :
    (fieldWord? "Section".toList body).getD [] = codeSection ↔
      Says "Section".toList body ".text".toList := by
  rw [← fieldWord?_eq_some_iff isLabel_section]
  cases fieldWord? "Section".toList body with
  | none => simp [codeSection]
  | some w => simp [codeSection]

/-! ## Records -/

theorem symbolTableName_eq_some_iff {body n : Text} :
    ((field? "Name".toList body).bind fun value => (dropPlace value).firstWord?) = some n ↔
      Names .elf body n := by
  simp only [Option.bind_eq_some_iff, field?_eq_some_iff isLabel_name, Text.firstWord?_eq_some_iff,
    Names, unplaced_iff]
  constructor
  · rintro ⟨_, ⟨value, hvalue, rfl⟩, hn⟩
    exact ⟨value, _, hvalue, rfl, isFirstWord_dropPlace_bare_iff.1 hn⟩
  · rintro ⟨value, _, hvalue, rfl, hn⟩
    exact ⟨bare value, ⟨value, hvalue, rfl⟩, isFirstWord_dropPlace_bare_iff.2 hn⟩

/-- The name of a record is the one that its block names. -/
theorem names_of_record? {p : Platform} {body : Text} {r : SymbolRecord}
    (h : record? p body = some r) : Names p body r.name := by
  cases p with
  | elf =>
    simp only [record?, symbolTableRecord?, Option.map_eq_some_iff, symbolTableName_eq_some_iff] at h
    obtain ⟨n, hn, rfl⟩ := h
    exact hn
  | coff =>
    simp only [record?, exportTableRecord?, Option.map_eq_some_iff,
      fieldWord?_eq_some_iff isLabel_name] at h
    obtain ⟨n, hn, rfl⟩ := h
    exact hn

theorem isFirstWord_of_names {p : Platform} {body n : Text} (h : Names p body n) :
    ∃ s, s <:+: body ∧ Text.IsFirstWord n s := by
  cases p with
  | elf =>
    obtain ⟨_, rest, hvalue, hrest, hn⟩ := h
    exact ⟨rest, hrest.isPrefix.isInfix.trans hvalue.isInfix, hn⟩
  | coff =>
    obtain ⟨value, hvalue, hn⟩ := h
    exact ⟨value, hvalue.isInfix, hn⟩

/-- **The reader of records**: a block gives a record of an exported function called `n` exactly if
it names `n` and is admitted. -/
theorem exists_record_iff (f : ExportFilter) {body n : Text} :
    (∃ r, record? f.platform body = some r ∧ f.admits r ∧ r.name = n) ↔
      Names f.platform body n ∧ Admitted f.platform body := by
  obtain ⟨p, ignored⟩ := f
  cases p with
  | elf =>
    simp only [record?, symbolTableRecord?, Option.map_eq_some_iff, symbolTableName_eq_some_iff]
    constructor
    · rintro ⟨_, ⟨m, hm, rfl⟩, hadmits, rfl⟩
      simp only [ExportFilter.admits, Bool.and_eq_true, decide_eq_true_eq] at hadmits
      obtain ⟨⟨hkind, hbinding⟩, hsection⟩ := hadmits
      exact ⟨hm, binding_isExported_iff.1 hbinding, kind_eq_function_iff.1 hkind,
        sectionName_eq_iff.1 hsection⟩
    · rintro ⟨hn, hbinding, hkind, hsection⟩
      refine ⟨_, ⟨n, hn, rfl⟩, ?_, rfl⟩
      simp only [ExportFilter.admits, Bool.and_eq_true, decide_eq_true_eq]
      exact ⟨⟨kind_eq_function_iff.2 hkind, binding_isExported_iff.2 hbinding⟩,
        sectionName_eq_iff.2 hsection⟩
  | coff =>
    simp only [record?, exportTableRecord?, Option.map_eq_some_iff,
      fieldWord?_eq_some_iff isLabel_name, ExportFilter.admits, true_and, Names, Admitted, and_true]
    constructor
    · rintro ⟨_, ⟨m, hm, rfl⟩, rfl⟩
      exact hm
    · exact fun hn => ⟨_, ⟨n, hn, rfl⟩, rfl⟩

end Listing

namespace ExportFilter

open Listing

theorem mem_apply {f : ExportFilter} {rs : List SymbolRecord} {n : Text} :
    n ∈ f.apply rs ↔ n ∉ f.ignored ∧ ∃ r ∈ rs, f.admits r ∧ r.name = n := by
  simp only [apply, SymbolSet.mem_ofList, List.mem_map, List.mem_filter, Bool.and_eq_true,
    decide_eq_true_eq]
  constructor
  · rintro ⟨r, ⟨hr, hadmits, hignored⟩, rfl⟩
    exact ⟨hignored, r, hr, hadmits, rfl⟩
  · rintro ⟨hignored, r, hr, hadmits, rfl⟩
    exact ⟨r, ⟨hr, hadmits, hignored⟩, rfl⟩

theorem mem_extract {f : ExportFilter} {raw n : Text} :
    n ∈ f.extract raw ↔ n ∉ f.ignored ∧ ∃ body ∈ bodies f.platform.marker raw,
      Names f.platform body n ∧ Admitted f.platform body := by
  simp only [extract, mem_apply, records, List.mem_filterMap, ← exists_record_iff]
  refine and_congr_right fun _ => ⟨?_, ?_⟩
  · rintro ⟨r, ⟨body, hbody, hr⟩, hadmits, hn⟩
    exact ⟨body, hbody, r, hr, hadmits, hn⟩
  · rintro ⟨body, hbody, r, hr, hadmits, hn⟩
    exact ⟨r, ⟨body, hbody, hr⟩, hadmits, hn⟩

/-- **Extraction is sound and complete.** Every listing has a scan by whose blocks its extracted
names are known: they are the names that are not ignored and that an admitted block of the scan
names. -/
theorem exists_scan_mem_extract_iff (f : ExportFilter) (raw : Text) :
    ∃ bs : List (Block f.platform.marker raw), IsScan bs ∧
      ∀ n, n ∈ f.extract raw ↔ n ∉ f.ignored ∧
        ∃ b ∈ bs, Names f.platform b.body n ∧ Admitted f.platform b.body := by
  have hmarker : '}' ∉ f.platform.marker := by
    cases f.platform <;> decide
  obtain ⟨bs, hscan, hbodies⟩ := exists_scan hmarker raw
  refine ⟨bs, hscan, fun n => ?_⟩
  rw [mem_extract, ← hbodies]
  simp

end ExportFilter

end ExportSurface
