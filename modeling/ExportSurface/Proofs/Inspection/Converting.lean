import ExportSurface.Proofs.Inspection.Varying
import ExportSurface.Proofs.Listing.LineEnds

/-!
# Inspections and the ends of lines

A listing or a reference may come from a system that ends its lines with a carriage return and a line
feed. Neither the names in a listing nor those in a reference depend on that.

* `Snapshot.decode_crlf` says so of references; `Listing.records_crlf` says it of listings.
* `Inspector.inspections_of_converted`: a listing or a reference, or both, may be converted without any
  effect on names, snapshots and verdicts.
-/

namespace ExportSurface

theorem Snapshot.nameOfLine?_append_return (line : Text) :
    nameOfLine? (line ++ ['\r']) = nameOfLine? line := by
  have hblank : ∀ c ∈ ['\r'], isBlank c := List.forall_mem_singleton.2 (by decide)
  rw [nameOfLine?, Text.trim_append_of_blank line hblank, nameOfLine?]

/-- **Converting the line ends of a snapshot leaves its names.** -/
theorem Snapshot.decode_crlf (t : Text) : decode (Text.crlf t) = decode t := by
  rw [decode, filterMap_pieces_crlf nameOfLine?_append_return, decode]

theorem Snapshot.decode_of_converts {t t' : Text} (h : Text.Converts t t') :
    decode t' = decode t := by
  rcases h with rfl | rfl
  · rfl
  · exact decode_crlf t

theorem ExportFilter.extract_of_converts (f : ExportFilter) {raw raw' : Text}
    (h : Text.Converts raw raw') : f.extract raw' = f.extract raw := by
  rcases h with rfl | rfl
  · rfl
  · rw [extract, Listing.records_crlf, extract]

namespace Inspector

variable {i i' : Inspector} {t t' u u' : FileTree} {reference reference' target target' : Path}
  {raw raw' text text' : Text}

/-- **Line ends have no effect.** Converting the line ends of a listing leaves its records, and
converting those of a snapshot leaves its names. So if a listing, a reference or both are converted, the
extracted names stay, a dump has the same outcome with the same bytes in its snapshot, and a check has
the same verdict. -/
theorem inspections_of_converted (hfilter : i'.filter = i.filter) (hraw : Text.Converts raw raw')
    (htext : Text.Converts text text') (hread : t.readText reference = .ok text)
    (hread' : t'.readText reference' = .ok text') (hsource : i.source t target = (.ok raw, u))
    (hsource' : i'.source t' target' = (.ok raw', u')) :
    (∀ p listing, Listing.records p (Text.crlf listing) = Listing.records p listing) ∧
      (∀ snapshot, Snapshot.decode (Text.crlf snapshot) = Snapshot.decode snapshot) ∧
      i'.filter.extract raw' = i.filter.extract raw ∧
      (∀ library, i'.snapshotOf library (i'.filter.extract raw') =
        i.snapshotOf library (i.filter.extract raw)) ∧
      (i'.source t target = (.ok raw', u) → ∀ output refusals,
        i'.dump t target output refusals = i.dump t target output refusals) ∧
      (i'.check t' (some reference') target').answer = (i.check t (some reference) target).answer := by
  have hnames : i'.filter.extract raw' = i.filter.extract raw := by
    rw [hfilter, ExportFilter.extract_of_converts i.filter hraw]
  refine ⟨Listing.records_crlf, Snapshot.decode_crlf, hnames, fun library => ?_, fun hsame => ?_, ?_⟩
  · rw [snapshotOf, snapshotOf, hnames, hfilter]
  · refine dump_congr hfilter ?_
    rw [extract_of_source hsource, extract_of_source hsame, hnames]
  · rw [check_of_text hread hsource, check_of_text hread' hsource', hnames,
      Snapshot.decode_of_converts htext]

/-- A symbol table and a reference with line ends of both kinds, as they stand and converted. -/
theorem inspections_of_converted_mixed :
    let raw := "Symbol\n\x7b\n\tName: foo (1) \r\n  Name: bar\n  Binding: Weak\r\n".toList ++
      "  Type: Function\n  Section: .text\n\x7d\n".toList
    let i := ofListing .elf raw
    let i' := ofListing .elf (Text.crlf raw)
    let t := referenceTree "bar\n\r\nfoo\r\n# old\n"
    let t' := referenceTree "bar\r\n\r\r\nfoo\r\r\n# old\r\n"
    i'.filter.extract (Text.crlf raw) = .ofList ["foo".toList] ∧
      (∀ output refusals, i'.dump t (.ofText ['a']) output refusals =
        i.dump t (.ofText ['a']) output refusals) ∧
      (i'.check t' (some (.ofText ['r'])) (.ofText ['a'])).answer =
        .ok (.diverged ⟨.ofList ["bar".toList], ∅⟩) := by
  intro raw i i' t t'
  have hread : t.readText (.ofText ['r']) = .ok "bar\n\r\nfoo\r\n# old\n".toList := by decide +kernel
  have hread' : t'.readText (.ofText ['r']) =
      .ok (Text.crlf "bar\n\r\nfoo\r\n# old\n".toList) := by decide +kernel
  obtain ⟨-, -, hnames, -, hdump, hcheck⟩ := inspections_of_converted
    (filter_ofListing .elf raw (Text.crlf raw)) (.inr rfl) (.inr rfl) hread hread'
    (source_ofListing .elf raw t (.ofText ['a']))
    (source_ofListing .elf (Text.crlf raw) t' (.ofText ['a']))
  exact ⟨hnames.trans (by decide +kernel), hdump (source_ofListing .elf _ t _),
    hcheck.trans (by decide +kernel)⟩

end Inspector

end ExportSurface
