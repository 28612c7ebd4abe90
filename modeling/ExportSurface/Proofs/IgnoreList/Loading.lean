import ExportSurface.IgnoreList.Load

/-!
# Loading ignore files in order

* `IgnoreList.loadAll_eq_error_iff`: loading fails with the failure of the first file that cannot be
  loaded.
* `IgnoreList.exists_loadAll_eq_ok_iff`: it succeeds if every file can be loaded.
-/

namespace ExportSurface.IgnoreList

variable {t : FileTree} {l : IgnoreList} {ps : List Path} {e : Failure}

theorem load_eq_error {p : Path} (h : load t p = .error e) :
    (∃ cause, e = .ignoreFileUnreadable p cause) ∨ e = .ignoreFileMalformed p := by
  unfold load at h
  split at h
  · exact .inl ⟨_, (Except.error.inj h).symm⟩
  · split at h
    · cases h
    · exact .inr (Except.error.inj h).symm

/-- **The first file that cannot be loaded decides.** -/
theorem loadAll_eq_error_iff : loadAll t l ps = .error e ↔
    ∃ before p after, ps = before ++ p :: after ∧ (∀ q ∈ before, ∃ m, load t q = .ok m) ∧
      load t p = .error e := by
  induction ps generalizing l with
  | nil => simp [loadAll]
  | cons q ps ih =>
    cases hq : load t q with
    | error e' =>
      rw [loadAll, hq]
      constructor
      · intro h
        obtain rfl := Except.error.inj h
        exact ⟨[], q, ps, rfl, nofun, hq⟩
      · rintro ⟨before, p, after, heq, hbefore, hp⟩
        cases before with
        | nil =>
          obtain ⟨rfl, rfl⟩ := List.cons.inj heq
          exact hq.symm.trans hp
        | cons q' before =>
          obtain ⟨rfl, rfl⟩ := List.cons.inj heq
          obtain ⟨m, hm⟩ := hbefore q List.mem_cons_self
          cases hq.symm.trans hm
    | ok m =>
      rw [loadAll, hq]
      refine ih.trans ?_
      constructor
      · rintro ⟨before, p, after, rfl, hbefore, hp⟩
        refine ⟨q :: before, p, after, rfl, fun q' hq' => ?_, hp⟩
        rcases List.mem_cons.1 hq' with rfl | hq'
        · exact ⟨m, hq⟩
        · exact hbefore q' hq'
      · rintro ⟨before, p, after, heq, hbefore, hp⟩
        cases before with
        | nil =>
          obtain ⟨rfl, rfl⟩ := List.cons.inj heq
          cases hq.symm.trans hp
        | cons q' before =>
          obtain ⟨rfl, rfl⟩ := List.cons.inj heq
          exact ⟨before, p, after, rfl, fun x hx => hbefore x (List.mem_cons_of_mem _ hx), hp⟩

theorem exists_loadAll_eq_ok_iff :
    (∃ m, loadAll t l ps = .ok m) ↔ ∀ p ∈ ps, ∃ m, load t p = .ok m := by
  induction ps generalizing l with
  | nil => simp [loadAll]
  | cons p ps ih =>
    rw [List.forall_mem_cons]
    cases hp : load t p with
    | error e => simp [loadAll, hp]
    | ok m => simpa [loadAll, hp] using ih

theorem load_ne_error_of_loadAll {m : IgnoreList} {p : Path} (h : loadAll t l ps = .ok m)
    (hp : p ∈ ps) : load t p ≠ .error e := by
  obtain ⟨m', hm'⟩ := exists_loadAll_eq_ok_iff.1 ⟨m, h⟩ p hp
  rw [hm']
  nofun

end ExportSurface.IgnoreList
