import ExportSurface.FileTree.Walk
import Mathlib.Data.List.Basic

/-!
# Walks and what they pass

A walk that ends somewhere else passes no dead end, so what stands at a dead end can be changed
behind its back; and a walk to an entry is a walk to the directory that holds it and one more step.

* `FileTree.AgreesOff l t t'`: the two trees differ at `l` at most. `FileTree.IsDeadEnd t l`: no
  walk goes on from `l`.
* `FileTree.walk_congr`, `FileTree.slot_congr`: a tree may be changed at a dead end.
* `FileTree.find_of_slot`, `FileTree.exists_slot_of_find`: finding an entry against naming it.
-/

namespace ExportSurface

theorem bind_eq_ok_iff {ε α β : Type} {x : Except ε α} {f : α → Except ε β} {b : β} :
    (x >>= f) = .ok b ↔ ∃ a, x = .ok a ∧ f a = .ok b := by
  cases x with
  | error e => simp [bind, Except.bind]
  | ok a => simp [bind, Except.bind]

theorem bind_unit_eq_ok_iff {ε β : Type} {x : Except ε Unit} {f : Unit → Except ε β} {b : β} :
    (x >>= f) = .ok b ↔ x = .ok () ∧ f () = .ok b := by
  rw [bind_eq_ok_iff]
  exact ⟨fun ⟨_, h⟩ => h, fun h => ⟨(), h⟩⟩

theorem throw_ne_ok {ε α : Type} (e : ε) (a : α) : (throw e : Except ε α) ≠ .ok a := nofun

namespace FileTree

/-! ## Dead ends -/

/-- The second tree has at every location but `l` what the first one has. -/
structure AgreesOff (l : Location) (t t' : FileTree) : Prop where
  lookup : ∀ {k}, k ≠ l → t'.lookup k = t.lookup k
  workingDirectory : t'.workingDirectory = t.workingDirectory

/-- At `l` stands neither a directory nor a link, so no walk goes on from there. -/
structure IsDeadEnd (t : FileTree) (l : Location) : Prop where
  not_directory : ∀ m, t.lookup l ≠ some (.directory m)
  not_link : ∀ p, t.lookup l ≠ some (.link p)

section

variable {t t' : FileTree} {l : Location}

theorem AgreesOff.refl (l : Location) (t : FileTree) : AgreesOff l t t := ⟨fun _ => rfl, rfl⟩

theorem AgreesOff.symm (h : AgreesOff l t t') : AgreesOff l t' t :=
  ⟨fun hk => (h.lookup hk).symm, h.workingDirectory.symm⟩

theorem AgreesOff.trans {t'' : FileTree} (h : AgreesOff l t t') (h' : AgreesOff l t' t'') :
    AgreesOff l t t'' :=
  ⟨fun hk => (h'.lookup hk).trans (h.lookup hk), h'.workingDirectory.trans h.workingDirectory⟩

theorem agreesOff_erase (t : FileTree) (l : Location) : AgreesOff l t (t.erase l) :=
  ⟨fun hk => lookup_erase_of_ne t hk, rfl⟩

theorem isDeadEnd_of_none (h : t.lookup l = none) : t.IsDeadEnd l := by
  constructor <;> simp [h]

theorem isDeadEnd_of_file {m : Mode} {content : Bytes} (h : t.lookup l = some (.file m content)) :
    t.IsDeadEnd l := by
  constructor <;> simp [h]

theorem AgreesOff.checkPassage (h : AgreesOff l t t') {k : Location} (hk : k ≠ l) :
    t'.checkPassage k = t.checkPassage k := by
  simp only [FileTree.checkPassage, h.lookup hk]

theorem AgreesOff.checkEnd (h : AgreesOff l t t') {k : Location} (hk : k ≠ l) (asDirectory : Bool) :
    t'.checkEnd k asDirectory = t.checkEnd k asDirectory := by
  simp only [FileTree.checkEnd, h.lookup hk]

theorem AgreesOff.start (h : AgreesOff l t t') (p : Path) : t'.start p = t.start p := by
  simp only [FileTree.start, h.workingDirectory]

/-- Who passes stands in a directory. -/
theorem exists_directory_of_checkPassage (h : t.checkPassage l = .ok ()) :
    ∃ m, t.lookup l = some (.directory m) := by
  unfold checkPassage at h
  split at h
  · cases h
  · next m hm => exact ⟨m, hm⟩
  · cases h

theorem checkEnd_of_checkPassage (h : t.checkPassage l = .ok ()) (asDirectory : Bool) :
    t.checkEnd l asDirectory = .ok () := by
  obtain ⟨m, hm⟩ := exists_directory_of_checkPassage h
  cases asDirectory with
  | false => rfl
  | true => simp [checkEnd, hm]

theorem ne_of_checkPassage (h : ∀ m, t.lookup l ≠ some (.directory m)) {k : Location}
    (hk : t.checkPassage k = .ok ()) : k ≠ l := by
  rintro rfl
  obtain ⟨m, hm⟩ := exists_directory_of_checkPassage hk
  exact h m hm

end

/-! ## Steps -/

section

variable {t t' : FileTree} {l : Location} {toFile asDirectory : Bool}
  {follow follow' : Location → Path → List Name → Bool → Except SystemError Location}
  {s d : Location} {steps : List Name} {links : Nat}

theorem advance_nil_eq_ok_iff :
    t.advance toFile follow s [] asDirectory = .ok d ↔
      t.checkEnd s asDirectory = .ok () ∧ s = d := by
  rw [advance, bind_unit_eq_ok_iff]
  simp [pure, Except.pure]

theorem advance_cons_eq_ok_iff {step : Name} {rest : List Name} :
    t.advance toFile follow s (step :: rest) asDirectory = .ok d ↔ t.checkPassage s = .ok () ∧
      (if step = Path.here then t.advance toFile follow s rest asDirectory
      else if step = Path.above then t.advance toFile follow s.tail rest asDirectory
      else if toFile ∧ asDirectory ∧ rest = [] then throw .isADirectory
      else if nameLimit < step.length then throw .nameTooLong
      else match t.lookup (step :: s) with
        | some (.link target) => follow s target rest asDirectory
        | _ => t.advance toFile follow (step :: s) rest asDirectory) = .ok d := by
  exact bind_unit_eq_ok_iff

/-- From a dead end there is no step to take. -/
theorem IsDeadEnd.eq_of_advance (hl : t.IsDeadEnd l)
    (h : t.advance toFile follow l steps asDirectory = .ok d) : d = l := by
  cases steps with
  | nil => exact (advance_nil_eq_ok_iff.1 h).2.symm
  | cons step rest =>
    have hpass := (advance_cons_eq_ok_iff.1 h).1
    exact absurd rfl (ne_of_checkPassage hl.not_directory hpass)

theorem IsDeadEnd.checkEnd_congr (hl : t.IsDeadEnd l) (h : t.checkEnd l asDirectory = .ok ()) :
    t'.checkEnd l asDirectory = .ok () := by
  cases asDirectory with
  | false => rfl
  | true =>
    cases hnode : t.lookup l with
    | none => simp [checkEnd, hnode] at h
    | some node =>
      cases node with
      | directory m => exact absurd hnode (hl.not_directory m)
      | _ => simp [checkEnd, hnode] at h

theorem advance_congr (h : AgreesOff l t t') (hl : t.IsDeadEnd l) (hd : d = l → t'.IsDeadEnd l)
    (hfollow : ∀ s p rest b, follow s p rest b = .ok d → follow' s p rest b = .ok d)
    (hw : t.advance toFile follow s steps asDirectory = .ok d) :
    t'.advance toFile follow' s steps asDirectory = .ok d := by
  induction steps generalizing s with
  | nil =>
    rw [advance_nil_eq_ok_iff] at hw ⊢
    obtain ⟨hend, rfl⟩ := hw
    refine ⟨?_, rfl⟩
    by_cases hs : s = l
    · subst hs
      exact hl.checkEnd_congr hend
    · exact (h.checkEnd hs asDirectory).trans hend
  | cons step rest ih =>
    rw [advance_cons_eq_ok_iff] at hw ⊢
    obtain ⟨hpass, hw⟩ := hw
    refine ⟨(h.checkPassage (ne_of_checkPassage hl.not_directory hpass)).trans hpass, ?_⟩
    split_ifs at hw ⊢ with hhere habove hfile hlength
    · exact ih hw
    · exact ih hw
    · by_cases hstep : step :: s = l
      · -- A step onto the dead end is the last one.
        subst hstep
        split at hw
        · next p hp => exact absurd hp (hl.not_link p)
        · have hl' := hd (hl.eq_of_advance hw)
          split
          · next p hp => exact absurd hp (hl'.not_link p)
          · exact ih hw
      · rw [h.lookup hstep]
        split at hw
        · exact hfollow _ _ _ _ hw
        · exact ih hw

/-- **Behind the back of a walk.** A walk does not see what stands at a dead end, as long as a walk that
ends there goes on to find a dead end. -/
theorem walk_congr (h : AgreesOff l t t') (hl : t.IsDeadEnd l) (hd : d = l → t'.IsDeadEnd l)
    (hw : t.walk toFile links s steps asDirectory = .ok d) :
    t'.walk toFile links s steps asDirectory = .ok d := by
  induction links generalizing s steps asDirectory with
  | zero => exact advance_congr h hl hd (fun _ _ _ _ hf => hf) hw
  | succ links ih => exact advance_congr h hl hd (fun _ _ _ _ hf => ih hf) hw

/-! ## The last step -/

variable {n : Name}

theorem advance_concat (hhere : n ≠ Path.here) (habove : n ≠ Path.above)
    (hlength : n.length ≤ nameLimit) (hpass : t.checkPassage d = .ok ())
    (hlink : ∀ p, t.lookup (n :: d) ≠ some (.link p))
    (hfollow : ∀ s p rest b, follow s p rest b = .ok d →
      follow s p (rest ++ [n]) false = .ok (n :: d))
    (hw : t.advance false follow s steps asDirectory = .ok d) :
    t.advance false follow s (steps ++ [n]) false = .ok (n :: d) := by
  induction steps generalizing s with
  | nil =>
    obtain ⟨-, rfl⟩ := advance_nil_eq_ok_iff.1 hw
    refine advance_cons_eq_ok_iff.2 ⟨hpass, ?_⟩
    rw [if_neg hhere, if_neg habove, if_neg (by simp), if_neg (by omega)]
    split
    · next p hp => exact absurd hp (hlink p)
    · exact advance_nil_eq_ok_iff.2 ⟨rfl, rfl⟩
  | cons step rest ih =>
    rw [List.cons_append]
    rw [advance_cons_eq_ok_iff] at hw ⊢
    refine ⟨hw.1, ?_⟩
    have hw := hw.2
    simp only [Bool.false_eq_true, false_and, if_false] at hw ⊢
    split_ifs at hw ⊢
    · exact ih hw
    · exact ih hw
    · split at hw
      · exact hfollow _ _ _ _ hw
      · exact ih hw

theorem exists_advance_of_concat {k : Location}
    (hfollow : ∀ s p rest b, follow s p (rest ++ [n]) false = .ok k →
      ∃ d, follow s p rest b = .ok d ∧ t.checkPassage d = .ok ())
    (hw : t.advance false follow s (steps ++ [n]) false = .ok k) :
    ∃ d, t.advance false follow s steps asDirectory = .ok d ∧ t.checkPassage d = .ok () := by
  induction steps generalizing s with
  | nil =>
    have hpass := (advance_cons_eq_ok_iff.1 hw).1
    exact ⟨s, advance_nil_eq_ok_iff.2 ⟨checkEnd_of_checkPassage hpass _, rfl⟩, hpass⟩
  | cons step rest ih =>
    rw [List.cons_append, advance_cons_eq_ok_iff] at hw
    obtain ⟨hpass, hw⟩ := hw
    simp only [advance_cons_eq_ok_iff, hpass, true_and]
    simp only [Bool.false_eq_true, false_and, if_false] at hw ⊢
    split_ifs at hw ⊢
    · exact ih hw
    · exact ih hw
    · split at hw
      · exact hfollow _ _ _ _ hw
      · exact ih hw

/-- A walk to a directory that may be passed, and one step to an entry that is no link. -/
theorem walk_concat (hhere : n ≠ Path.here) (habove : n ≠ Path.above)
    (hlength : n.length ≤ nameLimit) (hpass : t.checkPassage d = .ok ())
    (hlink : ∀ p, t.lookup (n :: d) ≠ some (.link p))
    (hw : t.walk false links s steps asDirectory = .ok d) :
    t.walk false links s (steps ++ [n]) false = .ok (n :: d) := by
  induction links generalizing s steps asDirectory with
  | zero =>
    exact advance_concat hhere habove hlength hpass hlink
      (fun _ _ _ _ hf => absurd hf (throw_ne_ok _ _)) hw
  | succ links ih =>
    refine advance_concat hhere habove hlength hpass hlink (fun s p rest b hf => ?_) hw
    have hrest : (rest ++ [n]).isEmpty = false := by simp
    rw [hrest, Bool.false_and, Bool.or_false, ← List.append_assoc]
    exact ih hf

/-- A walk to an entry passes the directory that holds it. -/
theorem exists_walk_of_concat {k : Location}
    (hw : t.walk false links s (steps ++ [n]) false = .ok k) :
    ∃ d, t.walk false links s steps asDirectory = .ok d ∧ t.checkPassage d = .ok () := by
  induction links generalizing s steps asDirectory with
  | zero => exact exists_advance_of_concat (fun _ _ _ _ hf => absurd hf (throw_ne_ok _ _)) hw
  | succ links ih =>
    refine exists_advance_of_concat (fun s p rest b hf => ih ?_) hw
    have hrest : (rest ++ [n]).isEmpty = false := by simp
    rwa [hrest, Bool.false_and, Bool.or_false, ← List.append_assoc] at hf

end

/-! ## Paths -/

section

variable {t t' : FileTree} {l d : Location} {p : Path} {n : Name}

/-- A path names the entry `n` of the directory `d`. -/
theorem slot_eq_some_iff :
    t.slot p = .ok (d, some n) ↔ ∃ s, t.start p = .ok s ∧ p.steps.getLast? = some n ∧
      t.walk false linkLimit s p.steps.dropLast false = .ok d ∧ t.checkPassage d = .ok () ∧
      n ≠ Path.here ∧ n ≠ Path.above := by
  rw [slot, bind_eq_ok_iff]
  refine exists_congr fun s => and_congr_right fun _ => ?_
  cases hlast : p.steps.getLast? with
  | none => simp [pure, Except.pure]
  | some last =>
    simp only [bind_eq_ok_iff, pure, Except.pure, Except.ok.injEq, Prod.mk.injEq,
      Option.some.injEq]
    constructor
    · rintro ⟨_, hw, _, hpass, rfl, hn⟩
      split_ifs at hn with hstep
      obtain rfl := Option.some.inj hn
      exact ⟨rfl, hw, hpass, not_or.1 hstep⟩
    · rintro ⟨rfl, hw, hpass, hn⟩
      exact ⟨d, hw, (), hpass, rfl, if_neg (not_or.2 hn)⟩

theorem slot_congr (h : AgreesOff l t t') (hl : t.IsDeadEnd l)
    (hslot : t.slot p = .ok (d, some n)) : t'.slot p = .ok (d, some n) := by
  obtain ⟨s, hs, hlast, hw, hpass, hn⟩ := slot_eq_some_iff.1 hslot
  have hd : d ≠ l := ne_of_checkPassage hl.not_directory hpass
  exact slot_eq_some_iff.2 ⟨s, (h.start p).trans hs, hlast, walk_congr h hl (absurd · hd) hw,
    (h.checkPassage hd).trans hpass, hn⟩

theorem resolveFile_congr (h : AgreesOff l t t') (hl : t.IsDeadEnd l) (hl' : t'.IsDeadEnd l)
    (hd : t.resolveFile p = .ok d) : t'.resolveFile p = .ok d := by
  obtain ⟨s, hs, hw⟩ := bind_eq_ok_iff.1 hd
  exact bind_eq_ok_iff.2 ⟨s, (h.start p).trans hs, walk_congr h hl (fun _ => hl') hw⟩

theorem find_eq_ok_iff {node : Node} :
    t.find p = .ok (l, node) ↔ t.resolve p = .ok l ∧ t.lookup l = some node := by
  rw [find, bind_eq_ok_iff]
  constructor
  · rintro ⟨k, hk, h⟩
    split at h
    · next m hm =>
      obtain ⟨rfl, rfl⟩ := Prod.mk.inj (Except.ok.inj h)
      exact ⟨hk, hm⟩
    · exact absurd h (throw_ne_ok _ _)
  · rintro ⟨hl, hnode⟩
    refine ⟨l, hl, ?_⟩
    simp only [hnode]
    rfl

theorem find_congr {node : Node} (h : AgreesOff l t t') (hl : t.IsDeadEnd l) (hd : d ≠ l)
    (hfind : t.find p = .ok (d, node)) : t'.find p = .ok (d, node) := by
  obtain ⟨hresolve, hnode⟩ := find_eq_ok_iff.1 hfind
  obtain ⟨s, hs, hw⟩ := bind_eq_ok_iff.1 hresolve
  exact find_eq_ok_iff.2 ⟨bind_eq_ok_iff.2 ⟨s, (h.start p).trans hs, walk_congr h hl (absurd · hd) hw⟩,
    (h.lookup hd).trans hnode⟩

/-- An entry that a path names is found there, unless it is a link. -/
theorem find_of_slot {node : Node} (hslot : t.slot p = .ok (d, some n))
    (hlength : n.length ≤ nameLimit) (hslash : p.endsInSlash = false)
    (hnode : t.lookup (n :: d) = some node) (hlink : ∀ q, node ≠ .link q) :
    t.find p = .ok (n :: d, node) := by
  obtain ⟨s, hs, hlast, hw, hpass, hhere, habove⟩ := slot_eq_some_iff.1 hslot
  refine find_eq_ok_iff.2 ⟨bind_eq_ok_iff.2 ⟨s, hs, ?_⟩, hnode⟩
  have hnotlink : ∀ q, t.lookup (n :: d) ≠ some (.link q) := fun q hq =>
    hlink q (Option.some.inj (hnode.symm.trans hq))
  rw [← List.dropLast_append_getLast? n hlast, hslash]
  exact walk_concat hhere habove hlength hpass hnotlink hw

/-- What is found at the end of a path was named by it, in whichever directory. -/
theorem exists_slot_of_find {e : Location × Node} (hfind : t.find p = .ok e)
    (hslash : p.endsInSlash = false) (hlast : p.steps.getLast? = some n) (hhere : n ≠ Path.here)
    (habove : n ≠ Path.above) : ∃ d, t.slot p = .ok (d, some n) := by
  obtain ⟨hresolve, -⟩ := find_eq_ok_iff.1 hfind
  obtain ⟨s, hs, hw⟩ := bind_eq_ok_iff.1 hresolve
  rw [← List.dropLast_append_getLast? n hlast, hslash] at hw
  obtain ⟨d, hwd, hpass⟩ := exists_walk_of_concat hw
  exact ⟨d, slot_eq_some_iff.2 ⟨s, hs, hlast, hwd, hpass, hhere, habove⟩⟩

end

end FileTree

end ExportSurface
