import ExportSurface.Proofs.Listing.Extraction

/-!
# The words of records

Whatever text is parsed, its records hold words of the text, and there are no more of them than
closing braces.

* `IsWordOf raw w`: the listing has the word `w` in one of its blocks.
* `isWordOf_of_isFirstWord`: the first word of a part of a body is such a word.
* `records_wellFormed` says which parts of a record are.
-/

namespace ExportSurface.Listing

/-- The text is a stretch of the listing without blanks and closing braces, and not empty. -/
structure IsWordOf (raw w : Text) : Prop where
  ne_nil : w ≠ []
  not_isBlank : ∀ c ∈ w, ¬isBlank c
  not_closing : '}' ∉ w
  isInfix : w <:+: raw

variable {p : Platform} {raw body w : Text} {r : SymbolRecord}

/-! ## Bodies -/

theorem not_closing_marker (p : Platform) : '}' ∉ p.marker := by cases p <;> decide

/-- A body stands in the listing, and no closing brace stands in it. -/
theorem closed_and_isInfix_of_mem_bodies (h : body ∈ bodies p.marker raw) :
    '}' ∉ body ∧ body <:+: raw := by
  obtain ⟨bs, -, hbodies⟩ := exists_scan (not_closing_marker p) raw
  obtain ⟨b, -, rfl⟩ := List.mem_map.1 (hbodies ▸ h)
  refine ⟨b.body_closed, b.before ++ p.marker ++ b.gap ++ ['{'], '}' :: b.after, ?_⟩
  conv_rhs => rw [b.text_eq]
  simp

theorem isWordOf_of_isFirstWord {s : Text} (hbody : body ∈ bodies p.marker raw) (hs : s <:+: body)
    (h : Text.IsFirstWord w s) : IsWordOf raw w := by
  obtain ⟨hclosed, hinfix⟩ := closed_and_isInfix_of_mem_bodies hbody
  have hw : w <:+: body := h.isInfix.trans hs
  obtain ⟨-, -, -, -, hne, hblank, -⟩ := h
  exact ⟨hne, hblank, fun hc => hclosed (hw.subset hc), hw.trans hinfix⟩

/-- Each body ends at a closing brace of its own. -/
theorem length_bodies_le (marker raw : Text) : (bodies marker raw).length ≤ raw.count '}' := by
  calc (bodies marker raw).length ≤ (stretches raw).length := List.length_filterMap_le _ _
    _ = raw.count '}' := by rw [stretches, List.length_dropLast, length_pieces, Nat.add_sub_cancel]

/-! ## Records -/

theorem isWordOf_name (hbody : body ∈ bodies p.marker raw) (h : record? p body = some r) :
    IsWordOf raw r.name := by
  obtain ⟨s, hs, hword⟩ := isFirstWord_of_names (names_of_record? h)
  exact isWordOf_of_isFirstWord hbody hs hword

theorem isWordOf_fieldWord {label : Text} (hlabel : IsLabel label)
    (hbody : body ∈ bodies p.marker raw) :
    (fieldWord? label body).getD [] = [] ∨ IsWordOf raw ((fieldWord? label body).getD []) := by
  cases hw : fieldWord? label body with
  | none => exact .inl rfl
  | some w =>
    obtain ⟨value, hvalue, hword⟩ := (fieldWord?_eq_some_iff hlabel).1 hw
    exact .inr (isWordOf_of_isFirstWord hbody hvalue.isInfix hword)

theorem eq_ofName_of_exportTable (h : record? .coff body = some r) : r = .ofName r.name := by
  obtain ⟨n, -, rfl⟩ := Option.map_eq_some_iff.1 h
  rfl

theorem isWordOf_sectionName (hbody : body ∈ bodies p.marker raw) (h : record? p body = some r) :
    r.sectionName = [] ∨ IsWordOf raw r.sectionName := by
  cases p with
  | elf =>
    obtain ⟨n, -, rfl⟩ := Option.map_eq_some_iff.1 h
    exact isWordOf_fieldWord isLabel_section hbody
  | coff =>
    rw [eq_ofName_of_exportTable h]
    exact .inl rfl

/-- **Records hold words of the listing.** Whatever text is parsed, the name of each record is a word
of it, and so is its section where one was read; a record of an export table has its name and nothing
else; and there are no more records than closing braces. -/
theorem records_wellFormed (raw : Text) :
    (∀ p, ∀ r ∈ records p raw,
      IsWordOf raw r.name ∧ (r.sectionName = [] ∨ IsWordOf raw r.sectionName)) ∧
    (∀ r ∈ records .coff raw, r = .ofName r.name) ∧
    ∀ p, (records p raw).length ≤ raw.count '}' := by
  refine ⟨fun p r hr => ?_, fun r hr => ?_, fun p => ?_⟩
  · obtain ⟨body, hbody, hrecord⟩ := List.mem_filterMap.1 hr
    exact ⟨isWordOf_name hbody hrecord, isWordOf_sectionName hbody hrecord⟩
  · obtain ⟨body, -, hrecord⟩ := List.mem_filterMap.1 hr
    exact eq_ofName_of_exportTable hrecord
  · exact (List.length_filterMap_le _ _).trans (length_bodies_le p.marker raw)

/-- A block that opens twice, whose name ends in two places. -/
theorem records_wellFormed_twoPlaces :
    let raw := "Symbol \x7b Symbol\x7b\nName:\t\x7bfoo(1)(23)\r\nSection: .text (0xE)\n\x7d\x7d".toList
    IsWordOf raw "\x7bfoo(1)".toList ∧ IsWordOf raw ".text".toList := by
  intro raw
  have hr : (⟨"\x7bfoo(1)".toList, .unknown, .unknown, ".text".toList⟩ : SymbolRecord) ∈
      records .elf raw := by
    decide +kernel
  obtain ⟨hname, hsection⟩ := (records_wellFormed raw).1 .elf _ hr
  exact ⟨hname, hsection.resolve_left (by decide)⟩

end ExportSurface.Listing
