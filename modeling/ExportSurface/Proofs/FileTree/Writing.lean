import ExportSurface.FileTree.Change
import ExportSurface.Proofs.FileTree.Replacing

/-!
# Writing a file in its place

Writing puts a file where the path leads and changes nothing else; a void swallows what is written to it.

* `FileTree.write_eq_ok`: what writing does to a tree.
* `FileTree.Rewritable t p l`: the path leads to `l` and the owner may write there, now and later.
  `FileTree.Rewritable.exists_write` is the step that preserves this.
* `FileTree.readBytes_congr`: who reads elsewhere does not see it.
-/

namespace ExportSurface

/-! ## Modes -/

theorem Mode.afterWriting_afterWriting (m : Mode) :
    m.afterWriting.afterWriting = m.afterWriting := by
  have h₁ : (0o1777 : BitVec 12) &&& 0o1777 = 0o1777 := rfl
  have h₂ : (0o3777 : BitVec 12) &&& 0o3777 = 0o3777 := rfl
  cases h : m.bits.getLsbD 3 with
  | false => simp only [afterWriting, h, BitVec.getLsbD_and, Bool.false_and, Bool.false_eq_true, if_false,
      BitVec.and_assoc, h₂]
  | true =>
    simp only [afterWriting, h, BitVec.getLsbD_and, Bool.true_and, if_true, BitVec.and_assoc]
    rfl

theorem Mode.afterWriting_new (withheld : Mode) :
    (newFile.without withheld).afterWriting = newFile.without withheld := by
  have h : (newFile.without withheld).bits.getLsbD 3 = false := by simp [newFile, without]
  rw [afterWriting, h]
  simp only [without, Bool.false_eq_true, if_false, Mode.mk.injEq]
  rw [BitVec.and_assoc, BitVec.and_comm (~~~withheld.bits), ← BitVec.and_assoc]
  rfl

@[simp]
theorem Mode.isWritable_afterWriting (m : Mode) : m.afterWriting.isWritable = m.isWritable := by
  cases h : m.bits.getLsbD 3 <;>
    simp only [afterWriting, isWritable, h, BitVec.getLsbD_and, if_true, Bool.false_eq_true, if_false]
  · exact Bool.and_true _
  · exact Bool.and_true _

namespace FileTree

variable {t t' : FileTree} {p : Path} {l : Location} {b : Bytes}

/-! ## What writing does -/

/-- Writing puts a file where the path leads, whatever is written, or there is a void and nothing
changes. -/
theorem write_eq_ok (h : t.write p b = .ok t') : ∃ l, t.resolveFile p = .ok l ∧
    (t.lookup l = some .void ∧ t' = t ∨
      ∃ m : Mode, m.afterWriting = m ∧ t' = t.put l (.file m b) ∧
        ∀ c, t.write p c = .ok (t.put l (.file m c))) := by
  obtain ⟨l, hl, h⟩ := bind_eq_ok_iff.1 h
  refine ⟨l, hl, ?_⟩
  cases hnode : t.lookup l with
  | none =>
    simp only [hnode] at h
    obtain ⟨hchange, h⟩ := bind_unit_eq_ok_iff.1 h
    refine .inr ⟨_, Mode.afterWriting_new t.withheld, (Except.ok.inj h).symm, fun c => ?_⟩
    simp [write, hl, hnode, hchange, bind, Except.bind, pure, Except.pure]
  | some node =>
    cases node with
    | file m old =>
      simp only [hnode] at h
      by_cases hm : m.isWritable
      · simp only [hm, if_true] at h
        refine .inr ⟨_, Mode.afterWriting_afterWriting m, (Except.ok.inj h).symm, fun c => ?_⟩
        simp [write, hl, hnode, hm, bind, Except.bind, pure, Except.pure]
      · simp only [hm] at h
        exact absurd h (throw_ne_ok _ _)
    | directory m =>
      simp only [hnode] at h
      exact absurd h (throw_ne_ok _ _)
    | link q =>
      simp only [hnode] at h
      exact absurd h (throw_ne_ok _ _)
    | void =>
      simp only [hnode] at h
      exact .inl ⟨rfl, (Except.ok.inj h).symm⟩

/-! ## Writing again and again -/

/-- The path leads to `l`, and the owner may write there: a file that is there lets its owner write, and
so would a new one, which may be made. -/
structure Rewritable (t : FileTree) (p : Path) (l : Location) : Prop where
  resolveFile_eq : t.resolveFile p = .ok l
  isDeadEnd : t.IsDeadEnd l
  new : t.lookup l = none → t.changeable l.tail = .ok () ∧ ¬t.withheld.isWritable
  kept : ∀ m c, t.lookup l = some (.file m c) → m.isWritable

theorem rewritable_of_none (hresolve : t.resolveFile p = .ok l) (hnode : t.lookup l = none)
    (hchange : t.changeable l.tail = .ok ()) (hwithheld : ¬t.withheld.isWritable) :
    t.Rewritable p l :=
  ⟨hresolve, isDeadEnd_of_none hnode, fun _ => ⟨hchange, hwithheld⟩, by simp [hnode]⟩

theorem Rewritable.put (h : t.Rewritable p l) {m : Mode} (hm : m.isWritable) (b : Bytes) :
    (t.put l (.file m b)).Rewritable p l := by
  have hnode := lookup_put_self t l (.file m b)
  refine ⟨resolveFile_congr (agreesOff_put t l _) h.isDeadEnd (isDeadEnd_of_file hnode)
      h.resolveFile_eq,
    isDeadEnd_of_file hnode, ?_, ?_⟩
  · simp [hnode]
  · intro m' c hnode'
    simp only [hnode, Option.some.injEq, Node.file.injEq] at hnode'
    exact hnode'.1 ▸ hm

/-- What may be written once may be written again. -/
theorem Rewritable.exists_write (h : t.Rewritable p l) (b : Bytes) :
    ∃ t', t.write p b = .ok t' ∧ AgreesOff l t t' ∧ t'.Rewritable p l := by
  cases hnode : t.lookup l with
  | none =>
    obtain ⟨hchange, hwithheld⟩ := h.new hnode
    have hwritable : (Mode.newFile.without t.withheld).isWritable := by
      simpa [Mode.newFile, Mode.without, Mode.isWritable] using hwithheld
    refine ⟨_, ?_, agreesOff_put t l _, h.put hwritable b⟩
    simp [write, h.resolveFile_eq, hnode, hchange, bind, Except.bind, pure, Except.pure]
  | some node =>
    cases node with
    | file m old =>
      have hm := h.kept m old hnode
      refine ⟨_, ?_, agreesOff_put t l _, h.put ((Mode.isWritable_afterWriting m).trans hm) b⟩
      simp [write, h.resolveFile_eq, hnode, hm, bind, Except.bind, pure, Except.pure]
    | directory m => exact absurd hnode (h.isDeadEnd.not_directory m)
    | link q => exact absurd hnode (h.isDeadEnd.not_link q)
    | void =>
      refine ⟨t, ?_, .refl l t, h⟩
      simp [write, h.resolveFile_eq, hnode, bind, Except.bind, pure, Except.pure]

/-! ## Reading elsewhere -/

/-- The path leads somewhere, and not to `l`. -/
def LeadsOff (t : FileTree) (p : Path) (l : Location) : Prop :=
  ∃ d node, t.find p = .ok (d, node) ∧ d ≠ l

instance instDecidableLeadsOff : Decidable (t.LeadsOff p l) :=
  decidable_of_iff ((t.find p).toOption.any fun found => found.1 ≠ l) (by
    rcases h : t.find p with e | ⟨d, node⟩ <;> simp [LeadsOff, Except.toOption, h])

theorem find_congr_of_leadsOff (h : AgreesOff l t t') (hl : t.IsDeadEnd l) (hp : t.LeadsOff p l) :
    t'.find p = t.find p := by
  obtain ⟨d, node, hfind, hd⟩ := hp
  rw [hfind, find_congr h hl hd hfind]

/-- What can be read has a path that is not too long. -/
theorem length_lt_of_readBytes (h : t.readBytes p = .ok b) : p.bytes.length < pathLimit := by
  obtain ⟨_, hfind, -⟩ := bind_eq_ok_iff.1 h
  obtain ⟨hresolve, -⟩ := find_eq_ok_iff.1 hfind
  obtain ⟨s, hs, -⟩ := bind_eq_ok_iff.1 hresolve
  by_contra hlong
  have : ¬p.bytes = [] := fun hp => hlong (by simp [hp, pathLimit])
  simp only [start, List.isEmpty_iff, this, if_false, if_pos (Nat.not_lt.1 hlong)] at hs
  split_ifs at hs

theorem readBytes_congr (h : AgreesOff l t t') (hl : t.IsDeadEnd l) (hp : t.LeadsOff p l) :
    t'.readBytes p = t.readBytes p := by
  rw [readBytes, readBytes, find_congr_of_leadsOff h hl hp]

theorem LeadsOff.congr (h : AgreesOff l t t') (hl : t.IsDeadEnd l) (hp : t.LeadsOff p l) :
    t'.LeadsOff p l := by
  obtain ⟨d, node, hfind, hd⟩ := hp
  exact ⟨d, node, find_congr h hl hd hfind, hd⟩

end FileTree

end ExportSurface
