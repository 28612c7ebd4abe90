import ExportSurface.Proofs.Inspection.Ignoring
import ExportSurface.Proofs.Snapshot.Lines

/-!
# Reproducible snapshots

What a dump leaves in its file is determined by the extracted names and the name of the library, and
it says which names they were.

* `Inspector.Leaves`: what a dump leaves where its path names an entry. `Inspector.leaves_of_dump`
  says it of every dump that succeeds.
* `Inspector.same_snapshot_iff`: two dumps of libraries that are called the same leave the same bytes
  exactly if they extract the same names.
-/

namespace ExportSurface

/-- The header does not depend on the directory of the library. -/
theorem SnapshotHeader.ofTarget_of_fileName {target : Path} {name : Name} (p : Platform)
    (h : target.fileName? = some name) :
    ofTarget target p = { targetName := Utf8.decodeLossy name, platform := p } := by
  rw [ofTarget, h]
  rfl

namespace Inspector

/-- After the dump the entry that the path names is a file with these contents. -/
def Leaves (i : Inspector) (t : FileTree) (target output : Path) (refusals : FileTree.Refusals)
    (content : Bytes) : Prop :=
  ∃ l m, (i.source t target).2.destination output = .ok l ∧
    (i.dump t target (some output) refusals).files.lookup l = some (.file m content)

/-- What a dump that succeeds leaves. -/
theorem leaves_of_dump {i : Inspector} {t t' : FileTree} {target output : Path}
    {refusals : FileTree.Refusals} {raw : Text} {symbols : SymbolSet}
    (hsource : i.source t target = (.ok raw, t'))
    (h : (i.dump t target (some output) refusals).answer = .ok symbols) :
    i.Leaves t target output refusals
      (Utf8.encode (i.snapshotOf target (i.filter.extract raw))) := by
  unfold Leaves
  have hcourse := i.dump_course t target (some output) refusals
  generalize i.dump t target (some output) refusals = o at h hcourse ⊢
  cases hcourse with
  | noListing hs => cases h
  | unwritten hs hwrite => cases h
  | written hs hwrite =>
    obtain ⟨rfl, rfl⟩ : raw = _ ∧ t' = _ := by simpa using hsource.symm.trans hs
    obtain ⟨l, hl, rfl⟩ := FileTree.replace_eq_ok hwrite
    exact ⟨l, _, by rwa [hs], FileTree.lookup_put_self ..⟩

variable {i₁ i₂ : Inspector} {t₁ t₂ u₁ u₂ : FileTree} {target₁ target₂ output₁ output₂ : Path}
  {refusals₁ refusals₂ : FileTree.Refusals} {name : Name} {raw₁ raw₂ : Text}
  {symbols₁ symbols₂ : SymbolSet}

/-- **Snapshots are reproducible and lose nothing.** Two dumps of libraries that are called the same
leave a common header and then the extracted names, one to a line and in increasing order. The bytes
that they leave are the same exactly if the extracted sets are. -/
theorem same_snapshot_iff (hplatform : i₂.filter.platform = i₁.filter.platform)
    (hname₁ : target₁.fileName? = some name) (hname₂ : target₂.fileName? = some name)
    (hsource₁ : i₁.source t₁ target₁ = (.ok raw₁, u₁))
    (hsource₂ : i₂.source t₂ target₂ = (.ok raw₂, u₂))
    (hdump₁ : (i₁.dump t₁ target₁ (some output₁) refusals₁).answer = .ok symbols₁)
    (hdump₂ : (i₂.dump t₂ target₂ (some output₂) refusals₂).answer = .ok symbols₂) :
    let header := (SnapshotHeader.ofTarget target₁ i₁.filter.platform).render
    ∃ lines₁ lines₂ : Text,
      i₁.Leaves t₁ target₁ output₁ refusals₁ (Utf8.encode (header ++ lines₁)) ∧
      i₂.Leaves t₂ target₂ output₂ refusals₂ (Utf8.encode (header ++ lines₂)) ∧
      (i₁.filter.extract raw₁).IsLinesOf lines₁ ∧ (i₂.filter.extract raw₂).IsLinesOf lines₂ ∧
      (Utf8.encode (header ++ lines₁) = Utf8.encode (header ++ lines₂) ↔
        i₁.filter.extract raw₁ = i₂.filter.extract raw₂) := by
  intro header
  have hheader : (SnapshotHeader.ofTarget target₂ i₂.filter.platform).render = header := by
    rw [SnapshotHeader.ofTarget_of_fileName _ hname₂, hplatform,
      ← SnapshotHeader.ofTarget_of_fileName _ hname₁]
  have hleaves₂ := leaves_of_dump hsource₂ hdump₂
  rw [snapshotOf, Snapshot.encode, hheader] at hleaves₂
  have hlines₁ : (i₁.filter.extract raw₁).IsLinesOf (i₁.filter.extract raw₁).render :=
    SymbolSet.isLinesOf_render fun _ => ExportFilter.not_mem_line_feed_of_mem_extract
  have hlines₂ : (i₂.filter.extract raw₂).IsLinesOf (i₂.filter.extract raw₂).render :=
    SymbolSet.isLinesOf_render fun _ => ExportFilter.not_mem_line_feed_of_mem_extract
  refine ⟨_, _, leaves_of_dump hsource₁ hdump₁, hleaves₂, hlines₁, hlines₂, ?_⟩
  rw [Utf8.encode_inj, List.append_cancel_left_eq]
  exact hlines₁.eq_iff hlines₂

/-- Two export tables with the same names, in another order and with one that is ignored, of
libraries in different directories. -/
theorem same_snapshot_iff_linkedTree : ∃ content,
    (ofNames ["foo", "bar", "foo"]).Leaves (linkedTree ⟨0o022⟩) (.ofText "d/a".toList)
        (.ofText ['o']) {} content ∧
      (ofNamesIgnoring ["bar", "old", "foo"] ["old"]).Leaves (linkedTree ⟨0o077⟩)
        (.ofText "/l/../a/".toList) (.ofText "l/o".toList) {} content := by
  have hdump₁ : ((ofNames ["foo", "bar", "foo"]).dump (linkedTree ⟨0o022⟩) (.ofText "d/a".toList)
      (some (.ofText ['o'])) {}).answer = .ok (.ofList ["bar".toList, "foo".toList]) := by
    decide +kernel
  have hdump₂ : ((ofNamesIgnoring ["bar", "old", "foo"] ["old"]).dump (linkedTree ⟨0o077⟩)
      (.ofText "/l/../a/".toList) (some (.ofText "l/o".toList)) {}).answer =
        .ok (.ofList ["bar".toList, "foo".toList]) := by
    decide +kernel
  have hsource₁ := source_ofNames ["foo", "bar", "foo"] (linkedTree ⟨0o022⟩) (.ofText "d/a".toList)
  have hsource₂ : (ofNamesIgnoring ["bar", "old", "foo"] ["old"]).source (linkedTree ⟨0o077⟩)
      (.ofText "/l/../a/".toList) = (.ok (exportTable ["bar", "old", "foo"]), linkedTree ⟨0o077⟩) :=
    rfl
  have hplatform : (ofNamesIgnoring ["bar", "old", "foo"] ["old"]).filter.platform =
      (ofNames ["foo", "bar", "foo"]).filter.platform := rfl
  have hname₁ : (Path.ofText "d/a".toList).fileName? = some (Utf8.encode ['a']) := by decide +kernel
  have hname₂ : (Path.ofText "/l/../a/".toList).fileName? = some (Utf8.encode ['a']) := by
    decide +kernel
  have hnames : (ofNames ["foo", "bar", "foo"]).filter.extract (exportTable ["foo", "bar", "foo"]) =
      (ofNamesIgnoring ["bar", "old", "foo"] ["old"]).filter.extract
        (exportTable ["bar", "old", "foo"]) := by
    decide +kernel
  obtain ⟨_, _, hleaves₁, hleaves₂, -, -, hsame⟩ :=
    same_snapshot_iff hplatform hname₁ hname₂ hsource₁ hsource₂ hdump₁ hdump₂
  rw [← hsame.2 hnames] at hleaves₂
  exact ⟨_, hleaves₁, hleaves₂⟩

end Inspector

end ExportSurface
