import ExportSurface.Proofs.Inspection.Rechecking
import ExportSurface.Proofs.Listing.Cutting

/-!
# Inspections of listings that differ

Two runs over one library, where one listing has text that the other one does not have.

* `Comparison.missing_antitone` and `Comparison.added_mono`: with more current names there are fewer
  missing ones and more new ones.
* `Inspector.verdict_of_truncated`: a listing that is cut off hides no break and invents no name.
* `Inspector.dump_congr` and `Inspector.check_congr`: an inspection sees the extracted names only. So
  text whose records do not count has no effect (`Inspector.inspections_of_uncounted`).
-/

namespace ExportSurface

/-! ## Comparisons with more and with fewer names -/

namespace Comparison

variable {expected current current' : SymbolSet}

theorem missing_antitone (h : ∀ n ∈ current, n ∈ current') :
    ∀ n ∈ (between expected current').missing, n ∈ (between expected current).missing := by
  intro n hn
  obtain ⟨hexpected, hcurrent⟩ := SymbolSet.mem_sdiff.1 hn
  exact SymbolSet.mem_sdiff.2 ⟨hexpected, fun hm => hcurrent (h n hm)⟩

theorem added_mono (h : ∀ n ∈ current, n ∈ current') :
    ∀ n ∈ (between expected current).added, n ∈ (between expected current').added := by
  intro n hn
  obtain ⟨hcurrent, hexpected⟩ := SymbolSet.mem_sdiff.1 hn
  exact SymbolSet.mem_sdiff.2 ⟨h n hcurrent, hexpected⟩

theorem isBreaking_iff {c : Comparison} : c.isBreaking ↔ ∃ n, n ∈ c.missing := by
  rw [isBreaking, Bool.not_eq_true', ← Bool.not_eq_true, SymbolSet.isEmpty_iff]
  constructor
  · intro h
    by_contra hnone
    exact h (SymbolSet.ext fun n => iff_of_false (not_exists.1 hnone n) (SymbolSet.not_mem_empty n))
  · rintro ⟨n, hn⟩ h
    exact SymbolSet.not_mem_empty n (h ▸ hn)

end Comparison

namespace Inspector

open Listing

variable {i i' : Inspector} {t t' u u' : FileTree} {reference reference' target target' : Path}

/-! ## Listings that are cut off -/

/-- **A listing that is cut off hides no break and invents no name.** Its records are the first ones
of the whole listing. Against the same reference it has all the missing names of the whole listing,
and of the new names some. Read the other way: no text behind a listing makes a name missing. -/
theorem verdict_of_truncated {short raw text : Text} (hcut : short <+: raw)
    (hfilter : i'.filter = i.filter) (hread : t.readText reference = .ok text)
    (hread' : t'.readText reference' = .ok text)
    (hsource : i.source t target = (.ok short, u))
    (hsource' : i'.source t' target' = (.ok raw, u')) :
    records i.filter.platform short <+: records i.filter.platform raw ∧
      ∃ v v', (i.check t (some reference) target).answer = .ok v ∧
        (i'.check t' (some reference') target').answer = .ok v' ∧
        (∀ n ∈ v'.comparison.missing, n ∈ v.comparison.missing) ∧
        (∀ n ∈ v.comparison.added, n ∈ v'.comparison.added) ∧
        (v'.comparison.isBreaking → v.comparison.isBreaking) := by
  have hmore : ∀ n ∈ i.filter.extract short, n ∈ i.filter.extract raw :=
    fun _ hn => ExportFilter.mem_extract_of_isPrefix hcut hn
  refine ⟨records_isPrefix _ hcut, _, _, check_of_text hread hsource,
    check_of_text hread' hsource', ?_⟩
  rw [hfilter, Verdict.comparison_ofComparison, Verdict.comparison_ofComparison]
  refine ⟨Comparison.missing_antitone hmore, Comparison.added_mono hmore, fun hbreaks => ?_⟩
  obtain ⟨n, hn⟩ := Comparison.isBreaking_iff.1 hbreaks
  exact Comparison.isBreaking_iff.2 ⟨n, Comparison.missing_antitone hmore n hn⟩

/-- An inspector of a symbol table or an export table that ignores `_init`. -/
def ofListing (p : Platform) (raw : Text) : Inspector :=
  ⟨.fixed (.ok raw), ⟨p, .ofList [⟨"_init".toList, []⟩]⟩⟩

theorem source_ofListing (p : Platform) (raw : Text) (t : FileTree) (target : Path) :
    (ofListing p raw).source t target = (.ok raw, t) := rfl

theorem filter_ofListing (p : Platform) (raw raw' : Text) :
    (ofListing p raw').filter = (ofListing p raw).filter := rfl

/-- The listing is cut off within its second block. -/
theorem verdict_of_truncated_referenceTree :
    let t := referenceTree "foo\nold\n"
    let answer (raw : Text) :=
      ((ofListing .coff raw).check t (some (.ofText ['r'])) (.ofText ['a'])).answer
    ∃ v v', answer ((exportTable ["new", "foo"]).take 40) = .ok v ∧
      answer (exportTable ["new", "foo"]) = .ok v' ∧
      v' = .diverged ⟨.ofList ["old".toList], .ofList ["new".toList]⟩ ∧
      "old".toList ∈ v.comparison.missing ∧ v.comparison.isBreaking := by
  intro t answer
  have hread : t.readText (.ofText ['r']) = .ok "foo\nold\n".toList := by decide +kernel
  obtain ⟨-, v, v', hv, hv', hmissing, -, hbreaks⟩ := verdict_of_truncated
    (List.take_prefix 40 (exportTable ["new", "foo"])) (filter_ofListing .coff _ _)
    hread hread (source_ofListing .coff _ t (.ofText ['a']))
    (source_ofListing .coff _ t (.ofText ['a']))
  have hwhole : answer (exportTable ["new", "foo"]) =
      .ok (.diverged ⟨.ofList ["old".toList], .ofList ["new".toList]⟩) := by decide +kernel
  obtain rfl := Except.ok.inj (hv'.symm.trans hwhole)
  exact ⟨v, _, hv, hv', rfl, hmissing _ (by decide +kernel), hbreaks (by decide +kernel)⟩

/-! ## Text that does not count -/

/-- A dump sees the extracted names only. -/
theorem dump_congr (hfilter : i'.filter = i.filter) (h : i'.extract t target = i.extract t target)
    (output : Option Path) (refusals : FileTree.Refusals) :
    i'.dump t target output refusals = i.dump t target output refusals := by
  simp only [dump, snapshotOf, h, hfilter]

/-- A check sees the extracted names only. -/
theorem check_congr (h : i'.extract t target = i.extract t target) (reference : Option Path) :
    i'.check t reference target = i.check t reference target := by
  simp only [check, h]

/-- Closed text whose records are ignored or no exported functions adds no names where it is
inserted. -/
theorem extract_append_uncounted {f : ExportFilter} {a m : Text} (ha : IsClosed a) (hm : IsClosed m)
    (hnone : ∀ r ∈ records f.platform m, r.name ∈ f.ignored ∨ ¬f.admits r) (b : Text) :
    f.extract (a ++ m ++ b) = f.extract (a ++ b) := by
  ext n
  rw [List.append_assoc, f.extract_append ha, f.extract_append hm, f.extract_append ha,
    ExportFilter.extract_eq_empty_iff.2 hnone]
  simp

/-- **Text that does not count has no effect.** A listing with it and one without it give the same
names, the same dumps with the same files after them, and the same verdicts. -/
theorem inspections_of_uncounted {a m b : Text} (ha : IsClosed a) (hm : IsClosed m)
    (hnone : ∀ r ∈ records i.filter.platform m, r.name ∈ i.filter.ignored ∨ ¬i.filter.admits r)
    (hfilter : i'.filter = i.filter) (hsource : i.source t target = (.ok (a ++ m ++ b), u))
    (hsource' : i'.source t target = (.ok (a ++ b), u)) :
    i.filter.extract (a ++ m ++ b) = i.filter.extract (a ++ b) ∧
      (∀ output refusals, i'.dump t target output refusals = i.dump t target output refusals) ∧
      ∀ reference, i'.check t reference target = i.check t reference target := by
  have hnames := extract_append_uncounted ha hm hnone b
  have hextract : i'.extract t target = i.extract t target := by
    rw [extract_of_source hsource, extract_of_source hsource', hfilter, hnames]
  exact ⟨hnames, dump_congr hfilter hextract, check_congr hextract⟩

/-- A block of a symbol table. -/
def symbolBlock (name kind : String) : Text :=
  "Symbol \x7b\n  Name: ".toList ++ name.toList ++ " (1)\n  Binding: Global\n  Type: ".toList ++
    kind.toList ++ "\n  Section: .text\n\x7d".toList

/-- An object with the name of a function, and within another block an ignored function. -/
def uncountedBlocks : Text :=
  symbolBlock "foo" "Object" ++ "\nSymbol \x7b".toList ++ symbolBlock "_init" "Function" ++ ['\x7d']

/-- Both listings are dumped, and compared with a reference that has one of their names and another
one. -/
theorem inspections_of_uncounted_symbolTable :
    let a := symbolBlock "foo" "Function"
    let i := ofListing .elf (a ++ uncountedBlocks ++ symbolBlock "bar" "Function")
    let i' := ofListing .elf (a ++ symbolBlock "bar" "Function")
    let t := referenceTree "foo\nold\n"
    i.filter.extract (a ++ uncountedBlocks ++ symbolBlock "bar" "Function") =
        .ofList ["foo".toList, "bar".toList] ∧
      i'.dump t (.ofText ['a']) (some (.ofText ['o'])) {} =
        i.dump t (.ofText ['a']) (some (.ofText ['o'])) {} ∧
      i'.check t (some (.ofText ['r'])) (.ofText ['a']) =
        i.check t (some (.ofText ['r'])) (.ofText ['a']) ∧
      (i.check t (some (.ofText ['r'])) (.ofText ['a'])).answer =
        .ok (.diverged ⟨.ofList ["old".toList], .ofList ["bar".toList]⟩) := by
  intro a i i' t
  have hread : t.readText (.ofText ['r']) = .ok "foo\nold\n".toList := by decide +kernel
  have hsource := source_ofListing .elf (a ++ uncountedBlocks ++ symbolBlock "bar" "Function") t
    (.ofText ['a'])
  obtain ⟨hnames, hdump, hcheck⟩ := inspections_of_uncounted (by decide +kernel) (by decide +kernel)
    (by decide +kernel) (filter_ofListing .elf _ _) hsource
    (source_ofListing .elf (a ++ symbolBlock "bar" "Function") t (.ofText ['a']))
  have hset := hnames.trans (by decide +kernel : _ = SymbolSet.ofList ["foo".toList, "bar".toList])
  have hanswer := check_of_text hread hsource
  refine ⟨hset, hdump _ _, hcheck _, hanswer.trans ?_⟩
  rw [hset]
  decide +kernel

end Inspector

end ExportSurface
