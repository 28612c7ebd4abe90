import ExportSurface.FileTree.Replacement
import ExportSurface.Proofs.FileTree.Walking
import ExportSurface.Proofs.Text.Utf8

/-!
# Reading back what replaced a file

Replacing puts one entry at one location and leaves no other trace (`FileTree.replace_cases`). Whether
the path then leads to the new file is another matter: the entry that was replaced may be a link
that the path itself passes, and the new file may have a mode that withholds it from its owner.

* `FileTree.Rereadable t p`: neither is the case. `FileTree.rereadable_of_not_link` names the usual
  reason.
* `FileTree.readBytes_of_replace`: the contents are read back exactly then.
-/

namespace ExportSurface

theorem Mode.isReadable_without (m withheld : Mode) :
    (m.without withheld).isReadable = (m.isReadable && !withheld.isReadable) := by
  simp [isReadable, without]

namespace FileTree

/-- The mode of a file that replaces the entry that a path names. -/
def replacementMode (t : FileTree) (p : Path) : Mode :=
  (t.mode? p).getD (Mode.newFile.without t.withheld)

/-- The path leads to the entry that it names without passing it. -/
def StandsApart (t : FileTree) (p : Path) : Prop :=
  ∃ l, t.destination p = .ok l ∧ (t.erase l).destination p = .ok l

/-- What replaces the entry that a path names can be read at the same path, by an owner whom its mode
binds. -/
structure Rereadable (t : FileTree) (p : Path) : Prop where
  apart : t.StandsApart p
  readable : (t.replacementMode p).isReadable

variable {t : FileTree} {p : Path} {l : Location} {content : Bytes}

/-! ## The change of the tree -/

theorem agreesOff_put (t : FileTree) (l : Location) (n : Node) : AgreesOff l t (t.put l n) :=
  ⟨fun hk => lookup_put_of_ne t hk n, rfl⟩

theorem put_put (t : FileTree) (l : Location) (m n : Node) : (t.put l m).put l n = t.put l n := by
  rw [put, erase_put]
  rfl

theorem makeScratch_eq_ok {directory : Path} {refusal : Option SystemError} {k : Location}
    {t' : FileTree} (h : t.makeScratch directory refusal = .ok (k, t')) :
    t.lookup k = none ∧ t' = t.put k (.file (Mode.newFile.without t.withheld) []) := by
  obtain ⟨_, -, h⟩ := bind_eq_ok_iff.1 h
  obtain ⟨d, -, h⟩ := bind_eq_ok_iff.1 h
  obtain ⟨-, h⟩ := bind_unit_eq_ok_iff.1 h
  cases refusal with
  | some e => exact absurd h (throw_ne_ok _ _)
  | none =>
    cases hn : t.freshName? d with
    | none =>
      rw [hn] at h
      exact absurd h (throw_ne_ok _ _)
    | some n =>
      rw [hn] at h
      obtain ⟨rfl, rfl⟩ := Prod.mk.inj (Except.ok.inj h)
      exact ⟨by simpa using List.find?_some hn, rfl⟩

theorem setContentAt_put_file (k : Location) (m : Mode) (old : Bytes) :
    (t.put k (.file m old)).setContentAt k content = t.put k (.file m content) := by
  simp only [setContentAt, lookup_put_self]
  exact put_put t k _ _

theorem setModeAt_put_file (k : Location) (m : Mode) (o : Option Mode) :
    (t.put k (.file m content)).setModeAt k o = t.put k (.file (o.getD m) content) := by
  cases o with
  | none => rfl
  | some m' =>
    simp only [setModeAt, lookup_put_self]
    exact put_put t k _ _

theorem move_put {k : Location} (hk : t.lookup k = none) (n : Node) :
    (t.put k n).move k l = t.put l n := by
  simp only [move, lookup_put_self]
  rw [erase_put, erase_eq_self hk]

/-- Settling a scratch file puts it at its place, or leaves no other trace than the scratch file. -/
theorem settleScratch_put {k : Location} (hk : t.lookup k = none) (m : Mode) (old content : Bytes)
    (mode : Option Mode) (place : Except SystemError Location) (refusals : Refusals) :
    (∃ e n, (t.put k (.file m old)).settleScratch k content mode place refusals =
        (.error e, t.put k n)) ∨
      ∃ l, place = .ok l ∧ (t.put k (.file m old)).settleScratch k content mode place refusals =
        (.ok (), t.put l (.file (mode.getD m) content)) := by
  simp only [settleScratch, setContentAt_put_file, setModeAt_put_file, move_put hk]
  split
  · exact .inl ⟨_, _, rfl⟩
  · split
    · exact .inl ⟨_, _, rfl⟩
    · split
      · exact .inl ⟨_, _, rfl⟩
      · exact .inl ⟨_, _, rfl⟩
      · exact .inr ⟨_, rfl, rfl⟩

/-- **Replacing changes one entry or nothing.** -/
theorem replace_cases (t : FileTree) (p : Path) (content : Bytes) (refusals : Refusals) :
    (∃ e, t.replace p content refusals = (.error e, t)) ∨
      ∃ l, t.destination p = .ok l ∧
        t.replace p content refusals = (.ok (), t.put l (.file (t.replacementMode p) content)) := by
  unfold replace
  cases hscratch : t.makeScratch p.directory refusals.making with
  | error e => exact .inl ⟨e, rfl⟩
  | ok made =>
    obtain ⟨k, t'⟩ := made
    obtain ⟨hk, rfl⟩ := makeScratch_eq_ok hscratch
    rcases settleScratch_put hk (Mode.newFile.without t.withheld) [] content (t.mode? p)
      (t.destination p) refusals with ⟨e, n, hsettle⟩ | ⟨l, hl, hsettle⟩
    · refine .inl ⟨e, ?_⟩
      simp only [hsettle, erase_put, erase_eq_self hk]
    · exact .inr ⟨l, hl, by simp only [hsettle, replacementMode]⟩

theorem replace_eq_ok {t' : FileTree} {refusals : Refusals}
    (h : t.replace p content refusals = (.ok (), t')) :
    ∃ l, t.destination p = .ok l ∧ t' = t.put l (.file (t.replacementMode p) content) := by
  rcases replace_cases t p content refusals with ⟨e, he⟩ | ⟨l, hl, hok⟩
  · exact absurd (he.symm.trans h) (by simp)
  · exact ⟨l, hl, (Prod.mk.inj (h.symm.trans hok)).2⟩

/-- A replacement that fails leaves the tree as it was. -/
theorem replace_eq_error {t' : FileTree} {refusals : Refusals} {e : SystemError}
    (h : t.replace p content refusals = (.error e, t')) : t' = t := by
  rcases replace_cases t p content refusals with ⟨e, he⟩ | ⟨l, hl, hok⟩
  · exact (Prod.mk.inj (h.symm.trans he)).2
  · exact absurd (hok.symm.trans h) (by simp)

/-! ## The way back -/

theorem destination_eq_ok_iff :
    t.destination p = .ok l ↔ ∃ d n, t.slot p = .ok (d, some n) ∧ n.length ≤ nameLimit ∧
      p.endsInSlash = false ∧ (∀ m, t.lookup (n :: d) ≠ some (.directory m)) ∧ n :: d = l := by
  rw [destination, bind_eq_ok_iff]
  constructor
  · rintro ⟨⟨d, _ | n⟩, hslot, h⟩
    · exact absurd h (throw_ne_ok _ _)
    · refine ⟨d, n, hslot, ?_⟩
      simp only at h
      split_ifs at h with hlength hslash
      split at h
      · exact absurd h (throw_ne_ok _ _)
      · next hnode =>
        exact ⟨Nat.not_lt.1 hlength, by simpa using hslash, hnode, Except.ok.inj h⟩
  · rintro ⟨d, n, hslot, hlength, hslash, hnode, rfl⟩
    refine ⟨_, hslot, ?_⟩
    simp only [if_neg (Nat.not_lt.2 hlength), hslash, Bool.false_eq_true, if_false]
    rfl

/-- Only a path that passes a link can lead through the entry that it names. -/
theorem standsApart_of_not_link (hl : t.destination p = .ok l)
    (hlink : ∀ q, t.lookup l ≠ some (.link q)) : t.StandsApart p := by
  obtain ⟨d, n, hslot, hlength, hslash, hnode, rfl⟩ := destination_eq_ok_iff.1 hl
  refine ⟨_, hl, destination_eq_ok_iff.2 ⟨d, n, ?_, hlength, hslash, ?_, rfl⟩⟩
  · exact slot_congr (agreesOff_erase t _) ⟨hnode, hlink⟩ hslot
  · simp [lookup_erase_self]

/-- Where no link stands, what counts is the mode: of the entry that is there, or of new files. -/
theorem rereadable_of_not_link (hl : t.destination p = .ok l)
    (hlink : ∀ q, t.lookup l ≠ some (.link q)) (hkept : ∀ m, t.mode? p = some m → m.isReadable)
    (hnew : t.mode? p = none → ¬t.withheld.isReadable) : t.Rereadable p := by
  refine ⟨standsApart_of_not_link hl hlink, ?_⟩
  unfold replacementMode
  cases hmode : t.mode? p with
  | some m => exact hkept m hmode
  | none =>
    have hreads : Mode.newFile.isReadable := by decide
    simpa [Mode.isReadable_without, hreads] using hnew hmode

/-- A path that stands apart from its entry names it also when the entry became a file. -/
theorem destination_put_of_apart {m : Mode} (h : (t.erase l).destination p = .ok l) :
    (t.put l (.file m content)).destination p = .ok l := by
  obtain ⟨d, n, hslot, hlength, hslash, -, rfl⟩ := destination_eq_ok_iff.1 h
  have hagree : AgreesOff (n :: d) (t.erase (n :: d)) (t.put (n :: d) (.file m content)) :=
    (agreesOff_erase t _).symm.trans (agreesOff_put t _ _)
  have hend : (t.erase (n :: d)).IsDeadEnd (n :: d) := isDeadEnd_of_none (lookup_erase_self t _)
  exact destination_eq_ok_iff.2
    ⟨d, n, slot_congr hagree hend hslot, hlength, hslash, by simp, rfl⟩

/-- A new file is found where the path named it, if the path stands apart. -/
theorem find_put_of_apart {m : Mode} (h : (t.erase l).destination p = .ok l) :
    (t.put l (.file m content)).find p = .ok (l, .file m content) := by
  have hl : (t.put l (.file m content)).destination p = .ok l := destination_put_of_apart h
  obtain ⟨d, n, hslot, hlength, hslash, -, rfl⟩ := destination_eq_ok_iff.1 hl
  exact find_of_slot hslot hlength hslash (lookup_put_self t _ _) nofun

/-- A path that leads anywhere after its entry became a file stands apart. -/
theorem apart_of_find_put {m : Mode} {e : Location × Node} (hl : t.destination p = .ok l)
    (hfind : (t.put l (.file m content)).find p = .ok e) : (t.erase l).destination p = .ok l := by
  obtain ⟨d, n, hslot, hlength, hslash, -, rfl⟩ := destination_eq_ok_iff.1 hl
  obtain ⟨-, -, hlast, -, -, hhere, habove⟩ := slot_eq_some_iff.1 hslot
  obtain ⟨d', hslot'⟩ := exists_slot_of_find hfind hslash hlast hhere habove
  have hend : (t.put (n :: d) (.file m content)).IsDeadEnd (n :: d) :=
    isDeadEnd_of_file (lookup_put_self t _ _)
  have hback := slot_congr (agreesOff_put t (n :: d) (.file m content)).symm hend hslot'
  obtain rfl : d' = d := (Prod.mk.inj (Except.ok.inj (hback.symm.trans hslot))).1
  refine destination_eq_ok_iff.2 ⟨d', n, ?_, hlength, hslash, ?_, rfl⟩
  · exact slot_congr ((agreesOff_put t _ _).symm.trans (agreesOff_erase t _)) hend hslot'
  · simp [lookup_erase_self]

/-- **Reading back.** After a replacement the path gives the new contents if it is rereadable, and
an error if it is not. -/
theorem readBytes_of_replace {t' : FileTree} (h : t.replace p content = (.ok (), t')) :
    (t.Rereadable p → t'.readBytes p = .ok content) ∧
      (¬t.Rereadable p → ∃ cause, t'.readBytes p = .error cause) := by
  obtain ⟨l, hl, rfl⟩ := replace_eq_ok h
  constructor
  · rintro ⟨⟨k, hk, hapart⟩, hreadable⟩
    obtain rfl : k = l := Except.ok.inj (hk.symm.trans hl)
    rw [readBytes, find_put_of_apart hapart]
    exact if_pos hreadable
  · intro hnot
    cases hfind : (t.put l (.file (t.replacementMode p) content)).find p with
    | error cause =>
      rw [readBytes, hfind]
      exact ⟨cause, rfl⟩
    | ok e =>
      have hapart := apart_of_find_put hl hfind
      have hunreadable : ¬(t.replacementMode p).isReadable := fun hr => hnot ⟨⟨l, hl, hapart⟩, hr⟩
      rw [readBytes, find_put_of_apart hapart]
      exact ⟨.permissionDenied, if_neg hunreadable⟩

theorem readText_of_replace {text : Text} {t' : FileTree}
    (h : t.replace p (Utf8.encode text) = (.ok (), t')) :
    (t.Rereadable p → t'.readText p = .ok text) ∧
      (¬t.Rereadable p → ∃ cause, t'.readText p = .error cause) := by
  obtain ⟨hread, hfail⟩ := readBytes_of_replace h
  constructor
  · intro hp
    rw [readText, hread hp]
    simp only [bind, Except.bind, Utf8.decode?_encode]
    rfl
  · intro hp
    obtain ⟨cause, hcause⟩ := hfail hp
    rw [readText, hcause]
    exact ⟨cause, rfl⟩

end FileTree

end ExportSurface
