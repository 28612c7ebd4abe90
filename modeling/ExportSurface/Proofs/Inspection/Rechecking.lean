import ExportSurface.Proofs.Inspection.Answers
import ExportSurface.Proofs.Listing.Extraction
import ExportSurface.Proofs.Snapshot.RoundTrip

/-!
# Checking against a fresh dump

What a check says about a snapshot that a dump wrote, for any two listings. Three things can come in
between the two listings and the verdict: names that read as comments, line feeds in the name of the
library, and a path that does not lead back to what was written under it.

* `ExportFilter.listable_of_mem_extract`: of the names that are extracted a snapshot keeps all that
  are no comments.
* `Inspector.mem_decode_snapshotOf` says what is read from the snapshot of a listing.
* `Inspector.verdict_after_dump` is the verdict for a library whose name has no line feeds, and
  `Inspector.verdict_after_dump_exact` says when it is about the two listings alone.
-/

namespace ExportSurface

/-- The names of the set that do not read as comments. -/
def SymbolSet.uncommented (s : SymbolSet) : SymbolSet := s.filter (·.head? ≠ some commentMark)

instance {s : SymbolSet} {p : Text → Prop} [DecidablePred p] : Decidable (∀ n ∈ s, p n) :=
  inferInstanceAs (Decidable (∀ n ∈ s.toList, p n))

theorem SymbolSet.mem_uncommented {s : SymbolSet} {n : Text} :
    n ∈ s.uncommented ↔ n ∈ s ∧ n.head? ≠ some commentMark := by
  simp [uncommented]

/-! ## Extracted names -/

namespace ExportFilter

variable {f : ExportFilter} {raw n : Text}

/-- **Extracted names are words.** -/
theorem ne_nil_and_not_isBlank_of_mem_extract (h : n ∈ f.extract raw) :
    n ≠ [] ∧ ∀ c ∈ n, ¬isBlank c := by
  obtain ⟨-, _, -, hnames, -⟩ := mem_extract.1 h
  obtain ⟨_, -, _, _, -, -, hne, hblank, -⟩ := Listing.isFirstWord_of_names hnames
  exact ⟨hne, hblank⟩

theorem not_mem_line_feed_of_mem_extract (h : n ∈ f.extract raw) : '\n' ∉ n := fun hn =>
  (ne_nil_and_not_isBlank_of_mem_extract h).2 '\n' hn (by decide)

theorem listable_of_mem_extract (h : n ∈ f.extract raw) (hc : n.head? ≠ some commentMark) :
    Snapshot.Listable n := by
  obtain ⟨hne, hblank⟩ := ne_nil_and_not_isBlank_of_mem_extract h
  exact ⟨hne, fun c hc => hblank c (List.mem_of_mem_head? hc),
    fun c hc => hblank c (List.mem_of_mem_getLast? hc), not_mem_line_feed_of_mem_extract h, hc⟩

/-- What is read of an extracted name: the name, unless it reads as a comment. -/
theorem mem_decode_of_mem_extract {m : Text} (h : m ∈ f.extract raw) :
    n ∈ Snapshot.decode m ↔ n = m ∧ m.head? ≠ some commentMark := by
  by_cases hc : m.head? = some commentMark
  · rw [Snapshot.decode_comment hc (not_mem_line_feed_of_mem_extract h)]
    simp [hc]
  · rw [Snapshot.mem_decode_of_listable (listable_of_mem_extract h hc)]
    simp [hc]

end ExportFilter

/-! ## Snapshots of listings -/

namespace Inspector

variable {i : Inspector} {target : Path} {raw : Text}

/-- **What is read from the snapshot of a listing**: the extracted names that do not read as
comments, and what the name of the library makes. -/
theorem mem_decode_snapshotOf {n : Text} :
    n ∈ Snapshot.decode (i.snapshotOf target (i.filter.extract raw)) ↔
      n ∈ (i.filter.extract raw).uncommented ∨
        n ∈ Snapshot.decode (SnapshotHeader.ofTarget target i.filter.platform).overflow := by
  have hnames : (∃ m ∈ i.filter.extract raw, n ∈ Snapshot.decode m) ↔
      n ∈ (i.filter.extract raw).uncommented := by
    rw [SymbolSet.mem_uncommented]
    constructor
    · rintro ⟨m, hm, hn⟩
      obtain ⟨rfl, hc⟩ := (ExportFilter.mem_decode_of_mem_extract hm).1 hn
      exact ⟨hm, hc⟩
    · rintro ⟨hn, hc⟩
      exact ⟨n, hn, (ExportFilter.mem_decode_of_mem_extract hn).2 ⟨rfl, hc⟩⟩
  rw [snapshotOf, Snapshot.mem_decode_encode, hnames]

theorem decode_snapshotOf_of_no_line_feed
    (hname : '\n' ∉ (SnapshotHeader.ofTarget target i.filter.platform).targetName) :
    Snapshot.decode (i.snapshotOf target (i.filter.extract raw)) =
      (i.filter.extract raw).uncommented := by
  ext n
  rw [mem_decode_snapshotOf, Snapshot.overflow_eq_nil hname]
  simp

/-- The snapshot holds the extracted names if none of them reads as a comment and the name of the
library makes no others. -/
theorem decode_snapshotOf_eq_extract
    (hcomment : ∀ n ∈ i.filter.extract raw, n.head? ≠ some commentMark)
    (hname : ∀ n ∈ Snapshot.decode (SnapshotHeader.ofTarget target i.filter.platform).overflow,
      n ∈ i.filter.extract raw) :
    Snapshot.decode (i.snapshotOf target (i.filter.extract raw)) = i.filter.extract raw := by
  ext n
  rw [mem_decode_snapshotOf, SymbolSet.mem_uncommented]
  constructor
  · rintro (⟨hn, -⟩ | hn)
    · exact hn
    · exact hname n hn
  · exact fun hn => .inl ⟨hn, hcomment n hn⟩

/-! ## A dump and a check -/

/-- What a check answers about the snapshot that a dump of another listing, or the same, has written
to `output`. -/
def answerAfterDump (i₁ i₂ : Inspector) (t : FileTree) (target₁ target₂ output : Path) :
    Except Failure Verdict :=
  (i₂.check (i₁.dump t target₁ (some output)).files (some output) target₂).answer

/-! ## Samples -/

/-- An export table that lists the given names. -/
def exportTable (names : List String) : Text :=
  names.flatMap fun n => "Export \x7b\n  Name: ".toList ++ n.toList ++ "\n\x7d\n".toList

/-- An inspector of an export table. -/
def ofNames (names : List String) : Inspector := ⟨.fixed (.ok (exportTable names)), ⟨.coff, ∅⟩⟩

theorem source_ofNames (names : List String) (t : FileTree) (target : Path) :
    (ofNames names).source t target = (.ok (exportTable names), t) := rfl

/-- A root directory with a directory `d` in it and a link `l` to that. New entries do not get the
given bits of their modes. -/
def linkedTree (withheld : Mode) : FileTree where
  entries := [([], .directory .program), ([Utf8.encode ['d']], .directory .program),
    ([Utf8.encode ['l']], .link (.ofText ['d']))]
  workingDirectory := []
  withheld := withheld
  property := []

/-- A tree with a file at `r` that holds the given text. -/
def referenceTree (text : String) : FileTree where
  entries := [([], .directory .program),
    ([Utf8.encode ['r']], .file .newFile (Utf8.encode text.toList))]
  workingDirectory := []
  withheld := ⟨0o022⟩
  property := []

theorem rereadable_linkedTree : (linkedTree ⟨0o022⟩).Rereadable (.ofText ['o']) := by
  have hl : (linkedTree ⟨0o022⟩).destination (.ofText ['o']) = .ok [Utf8.encode ['o']] := by
    decide +kernel
  have hfree : (linkedTree ⟨0o022⟩).lookup [Utf8.encode ['o']] = none := by decide +kernel
  have hmode : (linkedTree ⟨0o022⟩).mode? (.ofText ['o']) = none := by decide +kernel
  exact FileTree.rereadable_of_not_link hl (fun q => hfree ▸ nofun) (fun m => hmode ▸ nofun)
    fun _ => by decide

/-- A dump succeeds, and a check of the same listing answers so. -/
def RecheckAnswers (names : List String) (withheld : Mode) (target output : Path)
    (answer : Except Failure Verdict) : Prop :=
  ((ofNames names).dump (linkedTree withheld) target (some output)).answer =
      .ok (.ofList (names.map String.toList)) ∧
    answerAfterDump (ofNames names) (ofNames names) (linkedTree withheld) target target output =
      answer

instance {names : List String} {withheld : Mode} {target output : Path}
    {answer : Except Failure Verdict} :
    Decidable (RecheckAnswers names withheld target output answer) :=
  inferInstanceAs (Decidable (_ ∧ _))

/-! ## The verdict -/

section

variable {i₁ i₂ : Inspector} {t t₁ t₂ : FileTree} {target₁ target₂ output : Path}
  {raw₁ raw₂ : Text} {symbols : SymbolSet}

/-- The check compares with what is read from the snapshot, if the path is rereadable. -/
theorem answerAfterDump_eq (hsource₁ : i₁.source t target₁ = (.ok raw₁, t₁))
    (hdump : (i₁.dump t target₁ (some output)).answer = .ok symbols)
    (hsource₂ : i₂.source (i₁.dump t target₁ (some output)).files target₂ = (.ok raw₂, t₂)) :
    (t₁.Rereadable output → answerAfterDump i₁ i₂ t target₁ target₂ output =
        .ok (.ofComparison (.between
          (Snapshot.decode (i₁.snapshotOf target₁ (i₁.filter.extract raw₁)))
          (i₂.filter.extract raw₂)))) ∧
      (¬t₁.Rereadable output → ∃ cause, answerAfterDump i₁ i₂ t target₁ target₂ output =
        .error (.referenceUnreadable output cause)) := by
  obtain ⟨rfl, hreplace⟩ := dump_eq_ok hsource₁ hdump
  obtain ⟨hread, hfail⟩ := Snapshot.read_of_replace hreplace
  constructor
  · exact fun hp => check_of_read (hread hp) hsource₂
  · intro hp
    obtain ⟨cause, hcause⟩ := hfail hp
    exact ⟨cause, check_of_unread hcause⟩

/-- **The verdict of a check after a dump.** If the name of the library has no line feeds and the
path of the snapshot is rereadable, the check compares the dumped names that do not read as comments
with the current ones. If the path is not rereadable, the check says that it cannot read its
reference; a superuser could read a file of any mode, but is left out here. -/
theorem verdict_after_dump (hsource₁ : i₁.source t target₁ = (.ok raw₁, t₁))
    (hdump : (i₁.dump t target₁ (some output)).answer = .ok symbols)
    (hsource₂ : i₂.source (i₁.dump t target₁ (some output)).files target₂ = (.ok raw₂, t₂))
    (hname : '\n' ∉ (SnapshotHeader.ofTarget target₁ i₁.filter.platform).targetName) :
    (t₁.Rereadable output → ∃ v, answerAfterDump i₁ i₂ t target₁ target₂ output = .ok v ∧
        v.comparison.missing = (i₁.filter.extract raw₁).uncommented \ i₂.filter.extract raw₂ ∧
        v.comparison.added = i₂.filter.extract raw₂ \ (i₁.filter.extract raw₁).uncommented ∧
        (v = .compatible ↔ (i₁.filter.extract raw₁).uncommented = i₂.filter.extract raw₂)) ∧
      (¬t₁.Rereadable output → ∃ cause, answerAfterDump i₁ i₂ t target₁ target₂ output =
        .error (.referenceUnreadable output cause)) := by
  obtain ⟨hverdict, hfail⟩ := answerAfterDump_eq hsource₁ hdump hsource₂
  refine ⟨fun hp => ⟨_, hverdict hp, ?_⟩, hfail⟩
  rw [decode_snapshotOf_of_no_line_feed hname, Verdict.comparison_ofComparison]
  exact ⟨rfl, rfl, Verdict.ofComparison_eq_compatible_iff⟩

theorem verdict_after_dump_linkedTree : ∃ v,
    answerAfterDump (ofNames ["#foo", "old", "foo"]) (ofNames ["#foo", "new", "foo"])
        (linkedTree ⟨0o022⟩) (.ofText ['a']) (.ofText ['a']) (.ofText ['o']) = .ok v ∧
      v.comparison.missing = .ofList ["old".toList] ∧
      v.comparison.added = .ofList ["#foo".toList, "new".toList] := by
  have hdump : ((ofNames ["#foo", "old", "foo"]).dump (linkedTree ⟨0o022⟩) (.ofText ['a'])
      (some (.ofText ['o']))).answer =
        .ok (.ofList ["#foo".toList, "old".toList, "foo".toList]) := by
    decide +kernel
  have hsource := source_ofNames ["#foo", "new", "foo"]
  obtain ⟨v, hv, hmissing, hadded, -⟩ := (verdict_after_dump (source_ofNames _ _ _) hdump
    (hsource _ (.ofText ['a'])) (by decide +kernel)).1 rereadable_linkedTree
  exact ⟨v, hv, hmissing.trans (by decide +kernel), hadded.trans (by decide +kernel)⟩

/-- The entry that a path names may be a link that the path passes, and the bits that a new file
does not get may be the one to read it. -/
theorem unread_after_dump :
    (linkedTree ⟨0o022⟩).mode? (.ofText "l/../l".toList) = some .program ∧
      RecheckAnswers ["foo"] ⟨0o022⟩ (.ofText ['a']) (.ofText "l/../l".toList)
        (.error (.referenceUnreadable (.ofText "l/../l".toList) .notADirectory)) ∧
      (linkedTree ⟨0o422⟩).entry (.ofText ['o']) = .error .notFound ∧
      RecheckAnswers ["foo"] ⟨0o422⟩ (.ofText ['a']) (.ofText ['o'])
        (.error (.referenceUnreadable (.ofText ['o']) .permissionDenied)) := by
  decide +kernel

/-- **A check after a dump reports what changed in between**, if the path of the snapshot is
rereadable, no dumped name reads as a comment and the name of the library makes no other names. For
the superuser, whom no mode holds back, only the first half holds. -/
theorem verdict_after_dump_exact (hsource₁ : i₁.source t target₁ = (.ok raw₁, t₁))
    (hdump : (i₁.dump t target₁ (some output)).answer = .ok symbols)
    (hsource₂ : i₂.source (i₁.dump t target₁ (some output)).files target₂ = (.ok raw₂, t₂))
    (hcomment : ∀ n ∈ i₁.filter.extract raw₁, n.head? ≠ some commentMark)
    (hname : ∀ n ∈ Snapshot.decode (SnapshotHeader.ofTarget target₁ i₁.filter.platform).overflow,
      n ∈ i₁.filter.extract raw₁) :
    (t₁.Rereadable output → ∃ v, answerAfterDump i₁ i₂ t target₁ target₂ output = .ok v ∧
        v.comparison.missing = i₁.filter.extract raw₁ \ i₂.filter.extract raw₂ ∧
        v.comparison.added = i₂.filter.extract raw₂ \ i₁.filter.extract raw₁ ∧
        (v = .compatible ↔ i₁.filter.extract raw₁ = i₂.filter.extract raw₂)) ∧
      (¬t₁.Rereadable output → ∃ cause, answerAfterDump i₁ i₂ t target₁ target₂ output =
        .error (.referenceUnreadable output cause)) := by
  obtain ⟨hverdict, hfail⟩ := answerAfterDump_eq hsource₁ hdump hsource₂
  refine ⟨fun hp => ⟨_, hverdict hp, ?_⟩, hfail⟩
  rw [decode_snapshotOf_eq_extract hcomment hname, Verdict.comparison_ofComparison]
  exact ⟨rfl, rfl, Verdict.ofComparison_eq_compatible_iff⟩

theorem verdict_after_dump_exact_linkedTree : ∃ v,
    answerAfterDump (ofNames ["old", "foo"]) (ofNames ["new", "foo"]) (linkedTree ⟨0o022⟩)
        (.ofText "a\nfoo".toList) (.ofText ['a']) (.ofText ['o']) = .ok v ∧
      v.comparison.missing = .ofList ["old".toList] ∧
      v.comparison.added = .ofList ["new".toList] := by
  have hdump : ((ofNames ["old", "foo"]).dump (linkedTree ⟨0o022⟩) (.ofText "a\nfoo".toList)
      (some (.ofText ['o']))).answer = .ok (.ofList ["old".toList, "foo".toList]) := by
    decide +kernel
  have hsource := source_ofNames ["new", "foo"]
  obtain ⟨v, hv, hmissing, hadded, -⟩ := (verdict_after_dump_exact (source_ofNames _ _ _) hdump
    (hsource _ (.ofText ['a'])) (by decide +kernel) (by decide +kernel)).1 rereadable_linkedTree
  exact ⟨v, hv, hmissing.trans (by decide +kernel), hadded.trans (by decide +kernel)⟩

/-- The same listing twice: at a path that passes the link that it names, in a file that nobody can
read, with a name that reads as a comment, and for a library whose name makes another name. -/
theorem inexact_after_dump :
    (linkedTree ⟨0o022⟩).mode? (.ofText "d/../l/../l".toList) = some .program ∧
      RecheckAnswers ["foo"] ⟨0o022⟩ (.ofText ['a']) (.ofText "d/../l/../l".toList)
        (.error (.referenceUnreadable (.ofText "d/../l/../l".toList) .notADirectory)) ∧
      (linkedTree ⟨0o422⟩).entry (.ofText "d/o".toList) = .error .notFound ∧
      RecheckAnswers ["foo"] ⟨0o422⟩ (.ofText ['a']) (.ofText "d/o".toList)
        (.error (.referenceUnreadable (.ofText "d/o".toList) .permissionDenied)) ∧
      RecheckAnswers ["#foo"] ⟨0o022⟩ (.ofText ['a']) (.ofText ['o'])
        (.ok (.diverged ⟨∅, .ofList ["#foo".toList]⟩)) ∧
      RecheckAnswers ["foo"] ⟨0o022⟩ (.ofText "a\nbar".toList) (.ofText ['o'])
        (.ok (.diverged ⟨.ofList ["bar".toList], ∅⟩)) := by
  decide +kernel

end

end Inspector

end ExportSurface
