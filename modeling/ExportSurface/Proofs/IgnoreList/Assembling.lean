import ExportSurface.CommandLine.Options
import ExportSurface.Proofs.IgnoreList.Loading
import ExportSurface.Proofs.IgnoreList.Merging
import Mathlib.Data.List.Basic
import Mathlib.Tactic.Choose

/-!
# Assembling the ignore list of a run

The ignore list that a command line asks for is made of the toolchain artifacts and of all the ignore
files, or it is not made at all.

* `IgnoreList.Holds` says which entries a file holds, and `IgnoreList.Fault` why it holds none.
* `IgnoreList.entries_loadAll`: if the files hold entries, loading offers these in order.
* `Options.ignoreList_all_or_nothing` puts this together.
-/

namespace ExportSurface

namespace IgnoreList

/-! ## One file -/

/-- The file at the path holds the entries: it can be read, and its text describes them. -/
def Holds (t : FileTree) (p : Path) (es : List IgnoreEntry) : Prop :=
  ∃ text, t.readText p = .ok text ∧ entriesOfText? text = some es

/-- Why the file at the path holds no entries, and the failure that tells so. -/
inductive Fault (t : FileTree) (p : Path) : Failure → Prop
  /-- It cannot be read, or it is not the encoding of a text. -/
  | unreadable {cause : SystemError} (h : t.readText p = .error cause) :
      Fault t p (.ignoreFileUnreadable p cause)
  /-- Its text is no ignore file. -/
  | malformed {text : Text} (h : t.readText p = .ok text) (hentries : entriesOfText? text = none) :
      Fault t p (.ignoreFileMalformed p)

variable {t t' : FileTree} {p : Path} {ps : List Path} {l m : IgnoreList} {es : List IgnoreEntry}
  {e : Failure} {s : Text}

theorem load_eq_ok_iff : load t p = .ok m ↔ ∃ es, Holds t p es ∧ m = ofList es := by
  unfold load Holds
  cases t.readText p with
  | error cause => simp
  | ok text =>
    simp only [parse?_eq_map]
    cases hentries : entriesOfText? text with
    | none => simp [hentries]
    | some es => simp [hentries, eq_comm]

theorem load_eq_error_iff : load t p = .error e ↔ Fault t p e := by
  constructor
  · intro h
    unfold load at h
    split at h
    · next hread => exact Except.error.inj h ▸ .unreadable hread
    · next hread =>
      split at h
      · cases h
      · next hparse =>
        exact Except.error.inj h ▸ .malformed hread (Option.map_eq_none_iff.1 hparse)
  · rintro (hread | ⟨hread, hentries⟩)
    · rw [load, hread]
    · simp only [load, hread, parse?_eq_map, hentries, Option.map_none]

/-- Loading a file looks at nothing but its text. -/
theorem load_congr (h : t'.readText p = t.readText p) : load t' p = load t p := by
  rw [load, h, load]

/-! ## All files -/

/-- **If the files hold entries, loading offers these**, in order, behind those that are there. -/
theorem entries_loadAll {contents : Path → List IgnoreEntry} (h : ∀ p ∈ ps, Holds t p (contents p)) :
    ∃ m, loadAll t l ps = .ok m ∧ m.entries = firsts (l.entries ++ ps.flatMap contents) := by
  induction ps generalizing l with
  | nil => exact ⟨l, rfl, by rw [List.flatMap_nil, List.append_nil, firsts_eq_self l.distinct]⟩
  | cons p ps ih =>
    obtain ⟨hp, hps⟩ := List.forall_mem_cons.1 h
    have hload : load t p = .ok (ofList (contents p)) := load_eq_ok_iff.2 ⟨_, hp, rfl⟩
    obtain ⟨m, hm, hentries⟩ := ih (l := l ++ ofList (contents p)) hps
    refine ⟨m, by rw [loadAll, hload]; exact hm, ?_⟩
    rw [hentries, entries_append_ofList, firsts_firsts_append, List.append_assoc, List.flatMap_cons]

end IgnoreList

namespace Options

open IgnoreList

/-- The entries that come before those of the files. -/
def ownEntries (o : Options) : List IgnoreEntry := if o.skipsToolchain then [] else toolchainEntries

variable {o : Options} {t : FileTree} {l : IgnoreList} {contents : Path → List IgnoreEntry}

theorem ignoreList_of_holds (h : ∀ p ∈ o.ignoreFiles, Holds t p (contents p)) :
    ∃ l, o.ignoreList t = .ok l ∧
      l.entries = firsts (o.ownEntries ++ o.ignoreFiles.flatMap contents) := by
  obtain ⟨l, hl, hentries⟩ := entries_loadAll (l := if o.skipsToolchain then ∅ else .toolchain) h
  refine ⟨l, hl, hentries.trans ?_⟩
  have hown : (if o.skipsToolchain then ∅ else toolchain : IgnoreList) = ofList o.ownEntries := by
    unfold ownEntries
    split <;> rfl
  rw [hown, entries_ofList, firsts_firsts_append]

/-- Which symbols are ignored does not depend on the order and the number of the files. -/
theorem mem_ignoreList_iff (h : ∀ p ∈ o.ignoreFiles, Holds t p (contents p))
    (hl : o.ignoreList t = .ok l) {s : Text} :
    s ∈ l ↔ (∃ e ∈ o.ownEntries, e.symbol = s) ∨
      ∃ p ∈ o.ignoreFiles, ∃ e ∈ contents p, e.symbol = s := by
  obtain ⟨l', hl', hentries⟩ := ignoreList_of_holds h
  obtain rfl : l' = l := Except.ok.inj (hl'.symm.trans hl)
  rw [mem_iff, hentries, exists_mem_firsts_iff]
  simp only [List.mem_append, List.mem_flatMap, or_and_right, exists_or]
  refine or_congr_right ⟨?_, ?_⟩
  · rintro ⟨e, ⟨p, hp, he⟩, hs⟩
    exact ⟨p, hp, e, he, hs⟩
  · rintro ⟨p, hp, e, he, hs⟩
    exact ⟨e, ⟨p, hp, he⟩, hs⟩

/-- If not all files hold entries, there is no list. -/
theorem exists_ignoreList_eq_error
    (h : ¬∃ contents : Path → List IgnoreEntry, ∀ p ∈ o.ignoreFiles, Holds t p (contents p)) :
    ∃ e, o.ignoreList t = .error e := by
  cases hl : o.ignoreList t with
  | error e => exact ⟨e, rfl⟩
  | ok l =>
    have hloads : ∀ p ∈ o.ignoreFiles, ∃ es, Holds t p es := by
      intro p hp
      obtain ⟨m, hm⟩ := exists_loadAll_eq_ok_iff.1 ⟨l, hl⟩ p hp
      obtain ⟨es, hes, -⟩ := load_eq_ok_iff.1 hm
      exact ⟨es, hes⟩
    choose! contents hcontents using hloads
    exact absurd ⟨contents, hcontents⟩ h

/-- **The ignore list of a run is assembled whole or not at all.** If every ignore file holds entries, it
is made of the toolchain artifacts, unless they are skipped, and of the entries of the files in order, of
each symbol the first one; files in another order or given more than once ignore the same symbols. If
not, the failure tells of the first file that holds none, whatever is in the files behind it. -/
theorem ignoreList_all_or_nothing (o : Options) (t : FileTree) :
    (∀ contents : Path → List IgnoreEntry, (∀ p ∈ o.ignoreFiles, Holds t p (contents p)) →
      ∃ l, o.ignoreList t = .ok l ∧
        l.entries = firsts (o.ownEntries ++ o.ignoreFiles.flatMap contents) ∧
        ∀ ps : List Path, (∀ p, p ∈ ps ↔ p ∈ o.ignoreFiles) →
          ∃ l', { o with ignoreFiles := ps }.ignoreList t = .ok l' ∧ ∀ s, s ∈ l' ↔ s ∈ l) ∧
    ((¬∃ contents : Path → List IgnoreEntry, ∀ p ∈ o.ignoreFiles, Holds t p (contents p)) →
      ∃ before p after e, o.ignoreFiles = before ++ p :: after ∧
        (∀ q ∈ before, ∃ es, Holds t q es) ∧ Fault t p e ∧ o.ignoreList t = .error e ∧
        ∀ (after' : List Path) (t' : FileTree),
          (∀ q ∈ before ++ [p], t'.readText q = t.readText q) →
          { o with ignoreFiles := before ++ p :: after' }.ignoreList t' = .error e) := by
  refine ⟨fun contents h => ?_, fun h => ?_⟩
  · obtain ⟨l, hl, hentries⟩ := ignoreList_of_holds h
    refine ⟨l, hl, hentries, fun ps hps => ?_⟩
    have h' : ∀ p ∈ ps, Holds t p (contents p) := fun p hp => h p ((hps p).1 hp)
    obtain ⟨l', hl', -⟩ := ignoreList_of_holds (o := { o with ignoreFiles := ps }) h'
    refine ⟨l', hl', fun s => ?_⟩
    rw [mem_ignoreList_iff (o := { o with ignoreFiles := ps }) h' hl', mem_ignoreList_iff h hl]
    simp only [hps]
    rfl
  · obtain ⟨e, he⟩ := exists_ignoreList_eq_error h
    obtain ⟨before, p, after, hfiles, hbefore, hp⟩ := loadAll_eq_error_iff.1 he
    refine ⟨before, p, after, e, hfiles, fun q hq => ?_, load_eq_error_iff.1 hp, he, ?_⟩
    · obtain ⟨m, hm⟩ := hbefore q hq
      obtain ⟨es, hes, -⟩ := load_eq_ok_iff.1 hm
      exact ⟨es, hes⟩
    · intro after' t' hsame
      refine loadAll_eq_error_iff.2 ⟨before, p, after', rfl, fun q hq => ?_, ?_⟩
      · rw [load_congr (hsame q (List.mem_append_left _ hq))]
        exact hbefore q hq
      · rw [load_congr (hsame p (List.mem_append_right _ (List.mem_singleton.2 rfl)))]
        exact hp

/-- A tree with an ignore file at `a`, and at `b` a file that is none. -/
def ignoreFilesTree : FileTree where
  entries := [([], .directory .program),
    ([Utf8.encode ['a']], .file .newFile (Utf8.encode "[[ignore]]\nsymbol = \"foo\"\n".toList)),
    ([Utf8.encode ['b']], .file .newFile (Utf8.encode "[[ignore]]\nreason = \"foo\"\n".toList))]
  workingDirectory := []
  withheld := ⟨0o022⟩
  property := []

/-- The options of a dump that ignores the symbols of some files. -/
def ofIgnoreFiles (ps : List Path) : Options where
  task := .dump
  reference := none
  output := some (.ofText ['o'])
  toolDirectory := []
  ignoreFiles := ps
  skipsToolchain := true
  format := .text
  debug := false
  target := .ofText ['t']

/-- A file that is given twice, and then with one between that holds no entries. -/
theorem ignoreList_all_or_nothing_ignoreFilesTree :
    let (a, b) := (Path.ofText ['a'], Path.ofText ['b'])
    (∃ l l', (ofIgnoreFiles [a]).ignoreList ignoreFilesTree = .ok l ∧
      l.entries = [⟨"foo".toList, []⟩] ∧
      (ofIgnoreFiles [a, a]).ignoreList ignoreFilesTree = .ok l' ∧ ∀ s, s ∈ l' ↔ s ∈ l) ∧
    ∃ before after, [a, b, a] = before ++ b :: after ∧
      Fault ignoreFilesTree b (.ignoreFileMalformed b) ∧
      (ofIgnoreFiles [a, b, a]).ignoreList ignoreFilesTree = .error (.ignoreFileMalformed b) := by
  have hread : ignoreFilesTree.readText (.ofText ['a']) =
      .ok "[[ignore]]\nsymbol = \"foo\"\n".toList := by decide +kernel
  have hread' : ignoreFilesTree.readText (.ofText ['b']) =
      .ok "[[ignore]]\nreason = \"foo\"\n".toList := by decide +kernel
  have hholds : Holds ignoreFilesTree (.ofText ['a']) [⟨"foo".toList, []⟩] :=
    ⟨_, hread, by decide +kernel⟩
  have hnone : ∀ es, ¬Holds ignoreFilesTree (.ofText ['b']) es := by
    rintro es ⟨text, htext, hes⟩
    obtain rfl := Except.ok.inj (hread'.symm.trans htext)
    have hmalformed : entriesOfText? "[[ignore]]\nreason = \"foo\"\n".toList = none := by
      decide +kernel
    cases hmalformed.symm.trans hes
  obtain ⟨l, hl, hentries, hagain⟩ :=
    (ignoreList_all_or_nothing (ofIgnoreFiles [.ofText ['a']]) ignoreFilesTree).1
      (fun _ => [⟨"foo".toList, []⟩]) (fun p hp => List.mem_singleton.1 hp ▸ hholds)
  obtain ⟨l', hl', hsymbols⟩ := hagain [.ofText ['a'], .ofText ['a']] (by simp [ofIgnoreFiles])
  obtain ⟨before, p, after, e, hfiles, -, hp, he, -⟩ :=
    (ignoreList_all_or_nothing (ofIgnoreFiles [.ofText ['a'], .ofText ['b'], .ofText ['a']])
      ignoreFilesTree).2 fun ⟨contents, h⟩ => hnone _ (h _ (by simp [ofIgnoreFiles]))
  have hfailure : (ofIgnoreFiles [.ofText ['a'], .ofText ['b'], .ofText ['a']]).ignoreList
      ignoreFilesTree = .error (.ignoreFileMalformed (.ofText ['b'])) := by decide +kernel
  obtain rfl := Except.error.inj (he.symm.trans hfailure)
  obtain ⟨-⟩ | @⟨text, htext, htext'⟩ := hp
  refine ⟨⟨l, l', hl, hentries, hl', hsymbols⟩, before, after, hfiles, ?_, hfailure⟩
  exact .malformed htext htext'

end Options

end ExportSurface
