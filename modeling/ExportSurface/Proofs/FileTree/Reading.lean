import ExportSurface.Proofs.FileTree.Replacing
import ExportSurface.Proofs.Text.Pieces

/-!
# Reading files

What reading a file gives, and where a path leads that is just the name of an entry of the working
directory.

* `FileTree.readText_eq_ok_iff`: the text of a file is the one whose encoding its bytes are.
* `Path.IsPlain`: the path is the name of an entry. `FileTree.place` is the location of the entry.
* `FileTree.destination_of_plain`, `FileTree.find_plain_iff` and `FileTree.readText_plain_iff`: a plain
  path leads to its place and nowhere else, unless a link stands there.
-/

namespace ExportSurface

/-! ## Texts of files -/

namespace FileTree

variable {t : FileTree} {p : Path} {text : Text} {content : Bytes} {cause : SystemError}

theorem readText_eq_ok_iff : t.readText p = .ok text ↔ t.readBytes p = .ok (Utf8.encode text) := by
  rw [readText, bind_eq_ok_iff]
  constructor
  · rintro ⟨content, hcontent, h⟩
    split at h
    · next text' hdecode =>
      obtain rfl := Except.ok.inj h
      rw [hcontent, Utf8.decode?_eq_some_iff.1 hdecode]
    · exact absurd h (throw_ne_ok _ _)
  · intro h
    refine ⟨_, h, ?_⟩
    rw [Utf8.decode?_encode]
    rfl

theorem readText_of_unread (h : t.readBytes p = .error cause) : t.readText p = .error cause := by
  rw [readText, h]
  rfl

theorem readText_of_not_text (h : t.readBytes p = .ok content)
    (hcontent : ∀ text, content ≠ Utf8.encode text) : t.readText p = .error .notText := by
  have hdecode : Utf8.decode? content = none :=
    Option.eq_none_iff_forall_ne_some.2 fun text htext =>
      hcontent text (Utf8.decode?_eq_some_iff.1 htext)
  rw [readText, h]
  simp only [bind, Except.bind, hdecode]
  rfl

end FileTree

/-! ## Plain paths -/

/-- The path is the name of an entry, with no slash before or behind it. -/
structure Path.IsPlain (p : Path) : Prop where
  ne_nil : p.bytes ≠ []
  no_slash : Path.slash ∉ p.bytes
  not_here : p.bytes ≠ Path.here
  not_above : p.bytes ≠ Path.above

namespace Path.IsPlain

variable {p : Path}

theorem steps_eq (h : p.IsPlain) : p.steps = [p.bytes] := by
  have hne : p.bytes.isEmpty = false := by simpa using h.ne_nil
  rw [steps, pieces_of_not_mem h.no_slash]
  simp [hne]

theorem isAbsolute_eq (h : p.IsPlain) : p.isAbsolute = false :=
  decide_eq_false fun hslash => h.no_slash (List.mem_of_mem_head? (Option.mem_def.2 hslash))

theorem endsInSlash_eq (h : p.IsPlain) : p.endsInSlash = false :=
  decide_eq_false fun hslash => h.no_slash (List.mem_of_mem_getLast? (Option.mem_def.2 hslash))

end Path.IsPlain

namespace FileTree

/-- The location in the working directory that a plain path names. -/
def place (t : FileTree) (p : Path) : Location := p.bytes :: t.workingDirectory

/-- The system takes the path, and the owner may walk through the working directory. -/
structure Reaches (t : FileTree) (p : Path) : Prop where
  accepted : ∃ l, t.start p = .ok l
  passage : t.checkPassage t.workingDirectory = .ok ()
  length_le : p.bytes.length ≤ nameLimit

variable {t : FileTree} {p q : Path} {l : Location} {node : Node}

theorem place_inj : t.place p = t.place q ↔ p = q := by
  obtain ⟨b⟩ := p
  obtain ⟨b'⟩ := q
  simp [place]

theorem place_ne_workingDirectory : t.place p ≠ t.workingDirectory := by
  intro h
  simpa [place] using congrArg List.length h

theorem start_of_plain (hp : p.IsPlain) (h : t.start p = .ok l) : l = t.workingDirectory := by
  unfold start at h
  split_ifs at h with hzero hempty hlong
  rw [← Except.ok.inj h, startFrom, if_neg (by simp [hp.isAbsolute_eq])]

theorem walk_nil_eq_ok_iff {toFile asDirectory : Bool} {links : Nat} {s : Location} :
    t.walk toFile links s [] asDirectory = .ok l ↔ t.checkEnd s asDirectory = .ok () ∧ s = l := by
  cases links <;> exact advance_nil_eq_ok_iff

/-- A plain path can only be an entry of the working directory. -/
theorem destination_of_plain (hp : p.IsPlain) (h : t.destination p = .ok l) : l = t.place p := by
  obtain ⟨d, n, hslot, -, -, -, rfl⟩ := destination_eq_ok_iff.1 h
  obtain ⟨s, hs, hlast, hw, -⟩ := slot_eq_some_iff.1 hslot
  rw [hp.steps_eq] at hlast hw
  obtain ⟨-, rfl⟩ := walk_nil_eq_ok_iff.1 hw
  obtain rfl : p.bytes = n := Option.some.inj hlast
  rw [start_of_plain hp hs, place]

/-- One step from the working directory, if no link stands where it leads. -/
theorem advance_plain_iff {follow : Location → Path → List Name → Bool → Except SystemError Location}
    (hp : p.IsPlain) (hlink : ∀ q, t.lookup (t.place p) ≠ some (.link q)) :
    t.advance false follow t.workingDirectory [p.bytes] false = .ok l ↔
      t.checkPassage t.workingDirectory = .ok () ∧ p.bytes.length ≤ nameLimit ∧ l = t.place p := by
  rw [advance_cons_eq_ok_iff, if_neg hp.not_here, if_neg hp.not_above, if_neg (by simp)]
  refine and_congr_right fun _ => ?_
  by_cases hlength : nameLimit < p.bytes.length
  · rw [if_pos hlength]
    exact iff_of_false (throw_ne_ok _ _) fun h => absurd h.1 (Nat.not_le.2 hlength)
  · rw [if_neg hlength]
    split
    · next q hq => exact absurd hq (hlink q)
    · rw [advance_nil_eq_ok_iff]
      exact ⟨fun h => ⟨Nat.not_lt.1 hlength, h.2.symm⟩, fun h => ⟨rfl, h.2.symm⟩⟩

theorem resolve_plain_iff (hp : p.IsPlain) (hlink : ∀ q, t.lookup (t.place p) ≠ some (.link q)) :
    t.resolve p = .ok l ↔ t.Reaches p ∧ l = t.place p := by
  rw [resolve, bind_eq_ok_iff, hp.steps_eq, hp.endsInSlash_eq]
  constructor
  · rintro ⟨s, hs, hw⟩
    obtain rfl := start_of_plain hp hs
    obtain ⟨hpass, hlength, rfl⟩ := (advance_plain_iff hp hlink).1 hw
    exact ⟨⟨⟨_, hs⟩, hpass, hlength⟩, rfl⟩
  · rintro ⟨⟨⟨s, hs⟩, hpass, hlength⟩, rfl⟩
    obtain rfl := start_of_plain hp hs
    exact ⟨_, hs, (advance_plain_iff hp hlink).2 ⟨hpass, hlength, rfl⟩⟩

theorem find_plain_iff (hp : p.IsPlain) (hlink : ∀ q, t.lookup (t.place p) ≠ some (.link q)) :
    t.find p = .ok (l, node) ↔ t.Reaches p ∧ l = t.place p ∧ t.lookup (t.place p) = some node := by
  rw [find_eq_ok_iff, resolve_plain_iff hp hlink]
  constructor
  · rintro ⟨⟨hreach, rfl⟩, hnode⟩
    exact ⟨hreach, rfl, hnode⟩
  · rintro ⟨hreach, rfl, hnode⟩
    exact ⟨⟨hreach, rfl⟩, hnode⟩

/-- **Reading under a plain name.** The text of a file is read by its name exactly if its bytes are those
of the text, its mode lets the owner read and the system reaches it. -/
theorem readText_plain_iff {m : Mode} {content : Bytes} {text : Text} (hp : p.IsPlain)
    (hfile : t.lookup (t.place p) = some (.file m content)) :
    t.readText p = .ok text ↔ t.Reaches p ∧ m.isReadable ∧ content = Utf8.encode text := by
  have hlink (q : Path) : t.lookup (t.place p) ≠ some (.link q) := by simp [hfile]
  rw [readText_eq_ok_iff, readBytes, bind_eq_ok_iff]
  constructor
  · rintro ⟨⟨l, node⟩, hfind, h⟩
    obtain ⟨hreach, rfl, hnode⟩ := (find_plain_iff hp hlink).1 hfind
    obtain rfl := Option.some.inj (hfile.symm.trans hnode)
    dsimp only at h
    split_ifs at h with hreadable
    exact ⟨hreach, hreadable, Except.ok.inj h⟩
  · rintro ⟨hreach, hreadable, rfl⟩
    refine ⟨_, (find_plain_iff hp hlink).2 ⟨hreach, rfl, hfile⟩, ?_⟩
    exact if_pos hreadable

/-- Nothing is read under the name of an absent entry. -/
theorem readText_plain_ne_ok {text : Text} (hp : p.IsPlain) (hfree : t.lookup (t.place p) = none) :
    t.readText p ≠ .ok text := by
  have hlink (q : Path) : t.lookup (t.place p) ≠ some (.link q) := by simp [hfree]
  rw [Ne, readText_eq_ok_iff, readBytes, bind_eq_ok_iff]
  rintro ⟨⟨l, node⟩, hfind, -⟩
  obtain ⟨-, -, hnode⟩ := (find_plain_iff hp hlink).1 hfind
  cases hfree.symm.trans hnode

/-- The mode of the entry with a plain name, or of a new file if there is none. -/
def placeMode (t : FileTree) (p : Path) : Mode :=
  ((t.lookup (t.place p)).bind Node.mode?).getD (Mode.newFile.without t.withheld)

/-- What replaces the entry with a plain name gets the mode of the entry. -/
theorem replacementMode_of_plain (hp : p.IsPlain) (hl : t.destination p = .ok l)
    (hlink : ∀ q, t.lookup (t.place p) ≠ some (.link q)) : t.replacementMode p = t.placeMode p := by
  have hmode : t.mode? p = (t.lookup (t.place p)).bind Node.mode? := by
    unfold mode?
    cases hnode : t.lookup (t.place p) with
    | none =>
      cases hfind : t.find p with
      | error cause => rfl
      | ok e =>
        obtain ⟨-, -, hnode'⟩ := (find_plain_iff hp hlink).1 hfind
        cases hnode.symm.trans hnode'
    | some node =>
      obtain ⟨d, n, hslot, hlength, hslash, -, hplace⟩ := destination_eq_ok_iff.1 hl
      rw [destination_of_plain hp hl] at hplace
      have hnode' : t.lookup (n :: d) = some node := hplace ▸ hnode
      rw [find_of_slot hslot hlength hslash hnode' fun q hq => hlink q (hq ▸ hnode)]
      rfl
  rw [replacementMode, hmode, placeMode]

end FileTree

end ExportSurface
