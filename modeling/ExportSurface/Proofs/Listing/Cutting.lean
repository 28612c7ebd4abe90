import ExportSurface.Proofs.Listing.Extraction

/-!
# Listings cut behind closing braces

A closing brace ends the block that is open, and it is no word character that a marker could be glued
to. So a listing may be cut behind any closing brace and its parts be read one by one.

* `IsClosed`: a text is empty or ends in a closing brace. `records_append`: the records of a closed
  text and of what follows it are read independently.
* `exists_isClosed_append`: every text is a closed one and an open rest, which has no records. So
  more text never changes a record that was read already (`records_isPrefix`).
* `ExportFilter.extract_append` and `ExportFilter.mem_extract_flatten` say the same of extracted
  names, and `ExportFilter.extract_eq_empty_iff` which texts have none.
* `records_of_parts`: a listing has the records of its parts, and their order does not matter to what
  is extracted. A part that is left open has to stand last (`extract_of_open_part_in_front`).
-/

namespace ExportSurface

namespace Listing

/-! ## Closed texts -/

/-- The text is empty or ends in a closing brace. -/
def IsClosed (s : Text) : Prop := s = [] ∨ s.getLast? = some '}'

instance : DecidablePred IsClosed := fun s =>
  inferInstanceAs (Decidable (s = [] ∨ s.getLast? = some '}'))

theorem isClosed_concat (s : Text) : IsClosed (s ++ ['}']) := .inr List.getLast?_concat

theorem isClosed_iff {s : Text} : IsClosed s ↔ s = [] ∨ ∃ r, s = r ++ ['}'] :=
  or_congr_right List.getLast?_eq_some_iff

/-- Every text is a closed one and an open rest. -/
theorem exists_isClosed_append (s : Text) : ∃ a b, s = a ++ b ∧ IsClosed a ∧ '}' ∉ b := by
  induction s using cutInduction '}' with
  | whole s hs => exact ⟨[], s, rfl, .inl rfl, hs⟩
  | cut s r hs ih =>
    obtain ⟨a, b, rfl, ha, hb⟩ := ih
    rcases isClosed_iff.1 ha with rfl | ⟨a, rfl⟩
    · exact ⟨s ++ ['}'], b, by simp, isClosed_concat s, hb⟩
    · exact ⟨s ++ '}' :: a ++ ['}'], b, by simp, isClosed_concat _, hb⟩

/-! ## Records -/

variable {p : Platform} {a b : Text}

/-- **Stretches of closed texts.** A closed text and what follows it are cut independently. -/
theorem stretches_append (ha : IsClosed a) (b : Text) :
    stretches (a ++ b) = stretches a ++ stretches b := by
  rcases isClosed_iff.1 ha with rfl | ⟨r, rfl⟩
  · rfl
  · have hr : stretches (r ++ ['}']) = pieces '}' r := by
      rw [stretches_append_closing, stretches_of_not_mem List.not_mem_nil, List.append_nil]
    rw [List.append_assoc, List.singleton_append, stretches_append_closing, hr]

theorem records_append (p : Platform) (ha : IsClosed a) (b : Text) :
    records p (a ++ b) = records p a ++ records p b := by
  rw [records, bodies, stretches_append ha, List.filterMap_append, List.filterMap_append]
  rfl

theorem records_of_not_mem (p : Platform) (hb : '}' ∉ b) : records p b = [] := by
  rw [records, bodies, stretches_of_not_mem hb]
  rfl

/-- **More text never changes a record that was read already.** -/
theorem records_isPrefix (p : Platform) {short raw : Text} (h : short <+: raw) :
    records p short <+: records p raw := by
  obtain ⟨rest, rfl⟩ := h
  obtain ⟨a, b, rfl, ha, hb⟩ := exists_isClosed_append short
  rw [List.append_assoc, records_append p ha, records_append p ha, records_of_not_mem p hb,
    List.append_nil]
  exact List.prefix_append ..

/-! ## Parts -/

/-- The parts of a listing that is cut behind closing braces: each but the last is closed. -/
def AreParts (parts : List Text) : Prop := ∀ x ∈ parts.dropLast, IsClosed x

instance : DecidablePred AreParts := fun parts =>
  inferInstanceAs (Decidable (∀ x ∈ parts.dropLast, IsClosed x))

/-- **The records of a listing are those of its parts**, in order. -/
theorem records_flatten (p : Platform) {parts : List Text} (h : AreParts parts) :
    records p parts.flatten = parts.flatMap (records p) := by
  induction parts with
  | nil => rfl
  | cons x parts ih =>
    cases parts with
    | nil => simp
    | cons y parts =>
      have hx : IsClosed x := h x List.mem_cons_self
      have hrest : AreParts (y :: parts) := fun z hz => h z (List.mem_cons_of_mem x hz)
      rw [List.flatten_cons, records_append p hx, ih hrest]
      rfl

end Listing

/-! ## Extracted names -/

namespace ExportFilter

open Listing

variable {f : ExportFilter} {a m n : Text}

theorem apply_append (f : ExportFilter) (rs rs' : List SymbolRecord) :
    f.apply (rs ++ rs') = f.apply rs ∪ f.apply rs' := by
  ext n
  simp only [SymbolSet.mem_union, mem_apply, List.mem_append, or_and_right, exists_or, and_or_left]

theorem extract_append (f : ExportFilter) (ha : IsClosed a) (b : Text) :
    f.extract (a ++ b) = f.extract a ∪ f.extract b := by
  rw [extract, records_append f.platform ha, apply_append]
  rfl

/-- More text takes no extracted name away. -/
theorem mem_extract_of_isPrefix {short raw : Text} (h : short <+: raw) (hn : n ∈ f.extract short) :
    n ∈ f.extract raw := by
  obtain ⟨hignored, r, hr, hadmits, rfl⟩ := mem_apply.1 hn
  exact mem_apply.2 ⟨hignored, r, (records_isPrefix f.platform h).subset hr, hadmits, rfl⟩

theorem mem_extract_flatten {parts : List Text} (h : AreParts parts) :
    n ∈ f.extract parts.flatten ↔ ∃ x ∈ parts, n ∈ f.extract x := by
  simp only [extract, records_flatten f.platform h, mem_apply, List.mem_flatMap]
  constructor
  · rintro ⟨hignored, r, ⟨x, hx, hr⟩, hadmits, hn⟩
    exact ⟨x, hx, hignored, r, hr, hadmits, hn⟩
  · rintro ⟨x, hx, hignored, r, hr, hadmits, hn⟩
    exact ⟨hignored, r, ⟨x, hx, hr⟩, hadmits, hn⟩

/-- Nothing is extracted from a text exactly if all its records are ignored or no exported
functions. -/
theorem extract_eq_empty_iff :
    f.extract m = ∅ ↔ ∀ r ∈ records f.platform m, r.name ∈ f.ignored ∨ ¬f.admits r := by
  constructor
  · intro h r hr
    by_contra hcounts
    obtain ⟨hignored, hadmits⟩ := not_or.1 hcounts
    have hmem : r.name ∈ f.extract m := mem_apply.2 ⟨hignored, r, hr, not_not.1 hadmits, rfl⟩
    exact SymbolSet.not_mem_empty r.name (h ▸ hmem)
  · intro h
    ext n
    refine iff_of_false (fun hn => ?_) (SymbolSet.not_mem_empty n)
    obtain ⟨hignored, r, hr, hadmits, rfl⟩ := mem_apply.1 hn
    exact (h r hr).elim hignored (absurd hadmits)

end ExportFilter

/-! ## The order of parts -/

namespace Listing

/-- **Listings may be cut behind closing braces.** The records of a closed text and of what follows
it are read one after the other, and what is extracted from a listing does not depend on the order of
its parts. Only the last part may be left open. -/
theorem records_of_parts :
    (∀ (p : Platform) (a b : Text), IsClosed a → records p (a ++ b) = records p a ++ records p b) ∧
      ∀ (f : ExportFilter) (parts parts' : List Text), AreParts parts → AreParts parts' →
        parts.Perm parts' → f.extract parts.flatten = f.extract parts'.flatten := by
  refine ⟨fun p _ b ha => records_append p ha b, fun f parts parts' h h' hperm => ?_⟩
  ext n
  rw [ExportFilter.mem_extract_flatten h, ExportFilter.mem_extract_flatten h']
  simp only [hperm.mem_iff]

theorem records_of_parts_nested :
    let nested := "Export \x7bExport \x7b\nName: foo\x7d".toList
    let plain := "\x7d Export\x7bName: bar\x7d".toList
    let opened := "\nExport".toList
    records .coff (nested ++ plain) = [.ofName "foo".toList, .ofName "bar".toList] ∧
      ExportFilter.extract ⟨.coff, ∅⟩ [plain, nested, opened].flatten =
        .ofList ["foo".toList, "bar".toList] := by
  intro nested plain opened
  have hparts : AreParts [plain, nested, opened] := by decide +kernel
  have hparts' : AreParts [nested, plain, opened] := by decide +kernel
  have hrecords := records_of_parts.1 .coff nested plain (by decide +kernel)
  have hextract := records_of_parts.2 ⟨.coff, ∅⟩ _ _ hparts hparts' (.swap ..)
  exact ⟨hrecords.trans (by decide +kernel), hextract.trans (by decide +kernel)⟩

/-- A listing that is cut off within its second block. -/
def cutOffParts : List Text :=
  ["Export \x7b\n  Name: foo\n\x7d".toList, "\nExport \x7b\n  Name: bar\n".toList]

/-- **A part that is left open does not stand in front of another one**: its block goes on into the
other part, up to the first closing brace there. -/
theorem extract_of_open_part_in_front :
    AreParts cutOffParts ∧ cutOffParts.Perm cutOffParts.reverse ∧
      ExportFilter.extract ⟨.coff, ∅⟩ cutOffParts.flatten = .ofList ["foo".toList] ∧
      ExportFilter.extract ⟨.coff, ∅⟩ cutOffParts.reverse.flatten = .ofList ["bar".toList] :=
  ⟨by decide +kernel, cutOffParts.reverse_perm.symm, by decide +kernel, by decide +kernel⟩

end Listing

end ExportSurface
