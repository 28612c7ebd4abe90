import ExportSurface.Proofs.FileTree.Replacing
import ExportSurface.Snapshot.Store

/-!
# Written snapshots

What is different after a snapshot was written: one entry. The entry is the one that the path names,
not the one that it leads to, but its mode is that of what the path led to.

* `FileTree.Replaced`: the one entry and all the others, before and after.
  `FileTree.replaced_of_replace` says it of every replacement that succeeds.
* `Snapshot.replaced_of_write` says it of every snapshot that is written.
-/

namespace ExportSurface

namespace FileTree

/-- **What replacing an entry does**: the path named the entry at `l`, and there is now a file with the
mode `m` and the given contents. -/
structure Replaced (t : FileTree) (p : Path) (content : Bytes) (l : Location) (m : Mode)
    (t' : FileTree) : Prop where
  named : ∃ d n, t.slot p = .ok (d, some n) ∧ l = n :: d
  file : t'.lookup l = some (.file m content)
  /-- The path names the file, unless it passes the entry, which was a link, on its way to it. -/
  entry : t.StandsApart p → t'.entry p = .ok (.file m content)
  /-- The mode is that of what the path led to, at the end of all links. -/
  mode_kept : ∀ k node m', t.find p = .ok (k, node) → node.mode? = some m' → m = m'
  /-- If it led to nothing, the mode is that of a new file. -/
  mode_new : ∀ cause, t.find p = .error cause → m = Mode.newFile.without t.withheld
  /-- All other locations have what they had. -/
  others : ∀ k, k ≠ l → t'.lookup k = t.lookup k
  /-- If the entry was a link, the file that it led to is another one and stays as it was. -/
  link : ∀ q k m' old, t.lookup l = some (.link q) → t.find p = .ok (k, .file m' old) →
    k ≠ l ∧ t'.lookup k = some (.file m' old)
  workingDirectory : t'.workingDirectory = t.workingDirectory
  withheld : t'.withheld = t.withheld
  property : t'.property = t.property

variable {t t' : FileTree} {p : Path} {l : Location} {node : Node} {content : Bytes}

/-- An entry that a path names is what it is asked for. -/
theorem entry_of_destination (hl : t.destination p = .ok l) (hnode : t.lookup l = some node) :
    t.entry p = .ok node := by
  obtain ⟨d, n, hslot, hlength, hslash, -, rfl⟩ := destination_eq_ok_iff.1 hl
  rw [entry, hslot]
  simp only [bind, Except.bind, hslash, Bool.false_eq_true, if_false, if_neg (Nat.not_lt.2 hlength),
    hnode]
  rfl

theorem replacementMode_of_find {k : Location} {m : Mode} (hfind : t.find p = .ok (k, node))
    (hm : node.mode? = some m) : t.replacementMode p = m := by
  rw [replacementMode, mode?, hfind]
  exact congrArg (Option.getD · _) hm

theorem replacementMode_of_unfound {cause : SystemError} (hfind : t.find p = .error cause) :
    t.replacementMode p = Mode.newFile.without t.withheld := by
  rw [replacementMode, mode?, hfind]
  rfl

theorem replaced_of_replace {refusals : Refusals} (h : t.replace p content refusals = (.ok (), t')) :
    ∃ l m, t.Replaced p content l m t' := by
  obtain ⟨l, hl, rfl⟩ := replace_eq_ok h
  have hothers (k : Location) (hk : k ≠ l) :
      (t.put l (.file (t.replacementMode p) content)).lookup k = t.lookup k :=
    lookup_put_of_ne t hk _
  refine ⟨l, t.replacementMode p, ?_, lookup_put_self t _ _, fun hapart => ?_,
    fun _ _ _ => replacementMode_of_find, fun _ => replacementMode_of_unfound, hothers,
    fun q k m' old hq hfind => ?_, rfl, rfl, rfl⟩
  · obtain ⟨d, n, hslot, -, -, -, rfl⟩ := destination_eq_ok_iff.1 hl
    exact ⟨d, n, hslot, rfl⟩
  · obtain ⟨k, hk, hback⟩ := hapart
    obtain rfl : k = l := Except.ok.inj (hk.symm.trans hl)
    exact entry_of_destination (destination_put_of_apart hback) (lookup_put_self t _ _)
  · have hold := (find_eq_ok_iff.1 hfind).2
    have hne : k ≠ l := by
      rintro rfl
      cases hq.symm.trans hold
    exact ⟨hne, (hothers k hne).trans hold⟩

end FileTree

namespace Snapshot

variable {t t' : FileTree} {p : Path} {text : Text} {refusals : FileTree.Refusals}

theorem replace_of_write (h : write t p text refusals = (.ok (), t')) :
    t.replace p (Utf8.encode text) refusals = (.ok (), t') := by
  unfold write at h
  split at h
  · next hreplace =>
    obtain rfl := (Prod.mk.inj h).2
    exact hreplace
  · cases (Prod.mk.inj h).1

/-- **Writing a snapshot replaces one entry and nothing else.** -/
theorem replaced_of_write (h : write t p text refusals = (.ok (), t')) :
    ∃ l m, t.Replaced p (Utf8.encode text) l m t' :=
  FileTree.replaced_of_replace (replace_of_write h)

/-- A root directory with a file `r`, and with a link `l` to it. -/
def linkedFileTree : FileTree where
  entries := [([], .directory .program), ([Utf8.encode ['r']], .file ⟨0o640⟩ (Utf8.encode ['x'])),
    ([Utf8.encode ['l']], .link (.ofText ['r']))]
  workingDirectory := []
  withheld := ⟨0o022⟩
  property := []

/-- The link becomes a file with the mode of the file behind it, which stays as it was. -/
theorem replaced_of_write_linkedFileTree : ∃ t',
    write linkedFileTree (.ofText ['l']) ['y'] = (.ok (), t') ∧
      t'.lookup [Utf8.encode ['l']] = some (.file ⟨0o640⟩ (Utf8.encode ['y'])) ∧
      t'.lookup [Utf8.encode ['r']] = some (.file ⟨0o640⟩ (Utf8.encode ['x'])) ∧
      t'.entry (.ofText ['l']) = .ok (.file ⟨0o640⟩ (Utf8.encode ['y'])) := by
  have hwrite : (write linkedFileTree (.ofText ['l']) ['y']).1 = .ok () := by decide +kernel
  have hslot : linkedFileTree.slot (.ofText ['l']) = .ok ([], some (Utf8.encode ['l'])) := by
    decide +kernel
  have hfind : linkedFileTree.find (.ofText ['l']) =
      .ok ([Utf8.encode ['r']], .file ⟨0o640⟩ (Utf8.encode ['x'])) := by decide +kernel
  have hapart : linkedFileTree.StandsApart (.ofText ['l']) :=
    ⟨[Utf8.encode ['l']], by decide +kernel, by decide +kernel⟩
  obtain ⟨l, m, h⟩ := replaced_of_write (Prod.ext hwrite rfl)
  obtain ⟨d, n, hnamed, rfl⟩ := h.named
  obtain ⟨rfl, rfl⟩ : [] = d ∧ Utf8.encode ['l'] = n := by simpa using hslot.symm.trans hnamed
  obtain rfl := h.mode_kept _ _ _ hfind rfl
  have hlink : linkedFileTree.lookup [Utf8.encode ['l']] = some (.link (.ofText ['r'])) := by
    decide +kernel
  exact ⟨_, Prod.ext hwrite rfl, h.file, (h.link _ _ _ _ hlink hfind).2, h.entry hapart⟩

end Snapshot

end ExportSurface
