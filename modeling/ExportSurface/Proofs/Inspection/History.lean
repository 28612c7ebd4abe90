import ExportSurface.Proofs.FileTree.Reading
import ExportSurface.Proofs.Inspection.Ordering

/-!
# Histories of snapshots

What a sequence of dumps and checks leaves, if it works on entries of the working directory: each
entry holds what the last dump to it wrote that succeeded, or what it held at the start.

* `FileTree.Recorded t record t'`: the second tree has the recorded texts at their places and is the
  first one everywhere else. `FileTree.Recorded.trans` puts one record behind another.
* `Inspection.recorded_files` is what one inspection records, and `Inspection.recorded_run` what a
  sequence of them does, by induction.
* `Inspection.history_of_prefix`: what every entry holds, and what every check answers, after each
  step of a sequence.
-/

namespace ExportSurface

/-! ## Records -/

namespace FileTree

/-- The path is a plain name, and its entry is absent or a file. -/
structure IsPlace (t : FileTree) (p : Path) : Prop where
  plain : p.IsPlain
  entry : t.lookup (t.place p) = none ∨ ∃ m content, t.lookup (t.place p) = some (.file m content)

/-- What the entry with a plain name holds if the given text was recorded there last, or nothing was. -/
def held? (t : FileTree) (p : Path) : Option Text → Option Node
  | some text => some (.file (t.placeMode p) (Utf8.encode text))
  | none => t.lookup (t.place p)

/-- The tree has the recorded texts at their places, in files with the modes that were there, and is
otherwise as it was. -/
structure Recorded (t : FileTree) (record : Path → Option Text) (t' : FileTree) : Prop where
  workingDirectory : t'.workingDirectory = t.workingDirectory
  withheld : t'.withheld = t.withheld
  held : ∀ p, t'.lookup (t.place p) = t.held? p (record p)
  others : ∀ l, (∀ p, l = t.place p → record p = none) → t'.lookup l = t.lookup l

variable {t t' t'' : FileTree} {p : Path} {text : Text} {record record' : Path → Option Text}

theorem IsPlace.not_link (h : t.IsPlace p) (q : Path) : t.lookup (t.place p) ≠ some (.link q) := by
  rcases h.entry with hfree | ⟨m, content, hfile⟩
  · simp [hfree]
  · simp [hfile]

theorem recorded_nothing (t : FileTree) : t.Recorded (fun _ => none) t :=
  ⟨rfl, rfl, fun _ => rfl, fun _ _ => rfl⟩

theorem recorded_put (t : FileTree) (p : Path) (text : Text) :
    t.Recorded (fun q => if p = q then some text else none)
      (t.put (t.place p) (.file (t.placeMode p) (Utf8.encode text))) := by
  refine ⟨rfl, rfl, fun q => ?_, fun l hl => lookup_put_of_ne t (fun hp => ?_) _⟩
  · by_cases hq : p = q
    · subst hq
      simp only [if_true, lookup_put_self, held?]
    · rw [if_neg hq]
      exact lookup_put_of_ne t (fun h => hq (place_inj.1 h).symm) _
  · simpa using hl p hp

namespace Recorded

theorem place_eq (h : t.Recorded record t') (p : Path) : t'.place p = t.place p := by
  rw [place, place, h.workingDirectory]

theorem placeMode_eq (h : t.Recorded record t') (p : Path) : t'.placeMode p = t.placeMode p := by
  rw [placeMode, h.place_eq, h.held, h.withheld]
  cases record p with
  | none => rfl
  | some text => rfl

theorem isPlace (h : t.Recorded record t') (hp : t.IsPlace p) : t'.IsPlace p := by
  refine ⟨hp.plain, ?_⟩
  rw [h.place_eq, h.held]
  cases record p with
  | none => exact hp.entry
  | some text => exact .inr ⟨_, _, rfl⟩

theorem held?_eq (h : t.Recorded record t') (p : Path) (last : Option Text) :
    t'.held? p last = t.held? p (last.or (record p)) := by
  cases last with
  | none => rw [held?, h.place_eq, h.held, Option.none_or]
  | some text => rw [held?, h.placeMode_eq, Option.some_or, held?]

/-- **One record behind another.** What is recorded later counts. -/
theorem trans (h : t.Recorded record t') (h' : t'.Recorded record' t'') :
    t.Recorded (fun p => (record' p).or (record p)) t'' := by
  refine ⟨h'.workingDirectory.trans h.workingDirectory, h'.withheld.trans h.withheld, fun p => ?_,
    fun l hl => ?_⟩
  · rw [← h.place_eq, h'.held, h.held?_eq]
  · have hnone (p : Path) (hp : l = t.place p) := Option.or_eq_none_iff.1 (hl p hp)
    rw [h'.others l fun p hp => (hnone p (hp.trans (h.place_eq p))).1,
      h.others l fun p hp => (hnone p hp).2]

/-- The working directory itself is not recorded to, so what could be reached still can. -/
theorem reaches_iff (h : t.Recorded record t') : t'.Reaches p ↔ t.Reaches p := by
  have hstart : t'.start p = t.start p := by simp only [start, h.workingDirectory]
  have hpass : t'.checkPassage t'.workingDirectory = t.checkPassage t.workingDirectory := by
    have hsame := h.others t.workingDirectory fun q hq => absurd hq.symm place_ne_workingDirectory
    rw [checkPassage, checkPassage, h.workingDirectory, hsame]
  constructor
  · rintro ⟨hs, hw, hlength⟩
    exact ⟨hstart ▸ hs, hpass ▸ hw, hlength⟩
  · rintro ⟨hs, hw, hlength⟩
    exact ⟨hstart ▸ hs, hpass ▸ hw, hlength⟩

end Recorded

end FileTree

/-! ## Sequences of inspections -/

/-- The source looks at files but changes none. -/
def Source.KeepsFiles (s : Source) : Prop := ∀ t target, (s t target).2 = t

theorem Inspector.files_of_check {i : Inspector} (hsource : i.source.KeepsFiles) (t : FileTree)
    (reference : Option Path) (target : Path) : (i.check t reference target).files = t := by
  rw [(i.check_contract t target reference).files, hsource t target, ite_self]

/-- A dump or a check, with everything that it is told. -/
inductive Inspection where
  | dump (i : Inspector) (target : Path) (output : Option Path) (refusals : FileTree.Refusals)
  | check (i : Inspector) (target : Path) (reference : Option Path)

namespace Inspection

def inspector : Inspection → Inspector
  | dump i _ _ _ => i
  | check i _ _ => i

/-- The snapshot that is written or read. -/
def snapshot? : Inspection → Option Path
  | dump _ _ output _ => output
  | check _ _ reference => reference

/-- The files after an inspection. -/
def files (t : FileTree) : Inspection → FileTree
  | dump i target output refusals => (i.dump t target output refusals).files
  | check i target reference => (i.check t reference target).files

/-- The files after a sequence of inspections. -/
def run (t : FileTree) (xs : List Inspection) : FileTree := xs.foldl files t

/-- What an inspection records at a path: a dump to it that succeeds records the extracted names, and
nothing else does. -/
def record? (t : FileTree) (p : Path) : Inspection → Option Text
  | dump i target output refusals =>
    match (i.dump t target output refusals).answer, (i.source t target).1 with
    | .ok _, .ok raw =>
      if output = some p then
        some (Snapshot.encode (i.filter.extract raw) (.ofTarget target i.filter.platform))
      else none
    | _, _ => none
  | check _ _ _ => none

/-- What a sequence of inspections records last at a path. -/
def lastRecord? (t : FileTree) (p : Path) : List Inspection → Option Text
  | [] => none
  | x :: xs => (lastRecord? (x.files t) p xs).or (x.record? t p)

variable {t : FileTree} {x : Inspection} {xs ys : List Inspection}

/-- A dump that succeeds records the names that it gives. -/
theorem record?_of_dump {i : Inspector} {target p : Path} {refusals : FileTree.Refusals}
    {symbols : SymbolSet} (h : (i.dump t target (some p) refusals).answer = .ok symbols) :
    (dump i target (some p) refusals).record? t p =
      some (Snapshot.encode symbols (.ofTarget target i.filter.platform)) := by
  have hcourse := i.dump_course t target (some p) refusals
  simp only [record?]
  generalize i.dump t target (some p) refusals = o at h hcourse ⊢
  cases hcourse with
  | noListing hs => cases h
  | unwritten hs hwrite => cases h
  | written hs hwrite =>
    obtain rfl := Except.ok.inj h
    simp only [hs, if_true]

/-- **What one inspection records.** A dump that succeeds replaces the entry that its path names, and
nothing else is changed. -/
theorem recorded_files (hsource : x.inspector.source.KeepsFiles)
    (hplace : ∀ p, x.snapshot? = some p → t.IsPlace p) :
    t.Recorded (x.record? t) (x.files t) := by
  cases x with
  | check i target reference =>
    have hfiles : (check i target reference).files t = t := i.files_of_check hsource t reference target
    rw [hfiles]
    exact FileTree.recorded_nothing t
  | dump i target output refusals =>
    have hkeeps : (i.source t target).2 = t := hsource t target
    have hcourse := i.dump_course t target output refusals
    simp only [record?, files]
    generalize i.dump t target output refusals = o at hcourse ⊢
    cases hcourse with
    | optionMissing => exact FileTree.recorded_nothing t
    | @noListing _ t' _ hs =>
      obtain rfl : t' = t := (congrArg Prod.snd hs).symm.trans hkeeps
      exact FileTree.recorded_nothing _
    | @unwritten _ t' _ _ hs hwrite =>
      obtain rfl : t' = t := (congrArg Prod.snd hs).symm.trans hkeeps
      exact FileTree.recorded_nothing _
    | @written p t' t'' raw hs hwrite =>
      obtain rfl : t' = t := (congrArg Prod.snd hs).symm.trans hkeeps
      have hp := hplace p rfl
      obtain ⟨l, hl, rfl⟩ := FileTree.replace_eq_ok hwrite
      have hmode := FileTree.replacementMode_of_plain hp.plain hl hp.not_link
      rw [hmode, FileTree.destination_of_plain hp.plain hl]
      simp only [hs, Option.some.injEq]
      exact FileTree.recorded_put t' p _

/-- **What a sequence of inspections records.** -/
theorem recorded_run (hsources : ∀ x ∈ xs, x.inspector.source.KeepsFiles)
    (hplaces : ∀ x ∈ xs, ∀ p, x.snapshot? = some p → t.IsPlace p) :
    t.Recorded (lastRecord? t · xs) (run t xs) := by
  induction xs generalizing t with
  | nil => exact FileTree.recorded_nothing t
  | cons x xs ih =>
    rw [List.forall_mem_cons] at hsources hplaces
    have hx := recorded_files hsources.1 hplaces.1
    exact hx.trans (ih hsources.2 fun y hy p hp => hx.isPlace (hplaces.2 y hy p hp))

/-! ## Histories -/

/-- **What is the case after a sequence of inspections.** -/
structure History (t : FileTree) (xs : List Inspection) : Prop where
  /-- A plain name holds what the last dump to it wrote that succeeded, with the mode that was there
  or that of a new file, or what it held at the start. -/
  held : ∀ p, (run t xs).lookup (t.place p) = t.held? p (lastRecord? t p xs)
  /-- Everywhere else is what was there at the start. -/
  others : ∀ l, (∀ p, l = t.place p → lastRecord? t p xs = none) →
    (run t xs).lookup l = t.lookup l
  /-- A check changes nothing. -/
  check_files : ∀ i : Inspector, i.source.KeepsFiles → ∀ reference target,
    (i.check (run t xs) reference target).files = run t xs
  /-- A check of a name gets a result if it is reached and holds a readable text and the source has a
  listing, and the result is the comparison of what the text lists with what the listing gives. -/
  check_answer : ∀ (i : Inspector) target p v, t.IsPlace p →
    ((i.check (run t xs) (some p) target).answer = .ok v ↔
      t.Reaches p ∧ ∃ m text raw, t.held? p (lastRecord? t p xs) = some (.file m (Utf8.encode text)) ∧
        m.isReadable ∧ (i.source (run t xs) target).1 = .ok raw ∧
        v = .ofComparison (.between (Snapshot.decode text) (i.filter.extract raw)))

theorem history_of_recorded (h : t.Recorded (lastRecord? t · xs) (run t xs)) : History t xs := by
  refine ⟨h.held, h.others, fun i hi reference target => i.files_of_check hi _ reference target,
    fun i target p v hp => ?_⟩
  rw [Inspector.check_eq_ok_iff, ← h.held, ← h.reaches_iff, ← h.place_eq]
  have hplace := h.isPlace hp
  constructor
  · rintro ⟨text, raw, hread, hraw, rfl⟩
    rcases hplace.entry with hfree | ⟨m, content, hfile⟩
    · exact absurd hread (FileTree.readText_plain_ne_ok hp.plain hfree)
    · obtain ⟨hreach, hreadable, rfl⟩ := (FileTree.readText_plain_iff hp.plain hfile).1 hread
      exact ⟨hreach, m, text, raw, hfile, hreadable, hraw, rfl⟩
  · rintro ⟨hreach, m, text, raw, hfile, hreadable, hraw, rfl⟩
    have hread := (FileTree.readText_plain_iff hp.plain hfile).2 ⟨hreach, hreadable, rfl⟩
    exact ⟨text, raw, hread, hraw, rfl⟩

/-- **The history of snapshots.** After each step of a sequence of dumps and checks, with any sources
that change no files and any snapshots that are plain names of files or of nothing, every entry holds
what was recorded last and every check compares with that. -/
theorem history_of_prefix (hsources : ∀ x ∈ xs, x.inspector.source.KeepsFiles)
    (hplaces : ∀ x ∈ xs, ∀ p, x.snapshot? = some p → t.IsPlace p) (h : ys <+: xs) : History t ys :=
  history_of_recorded (recorded_run (fun x hx => hsources x (h.subset hx))
    fun x hx => hplaces x (h.subset hx))

/-- A dump to a file that is not there yet. -/
def freshDump : Inspection :=
  .dump (.ofNames ["foo"]) (.ofText ['a']) (some (.ofText ['o'])) {}

/-- A dump on a disk that fails at the end, a check, and a dump without a listing. -/
def failingDumps : List Inspection :=
  [.dump (.ofNames ["bar"]) (.ofText ['a']) (some (.ofText ['r'])) { moving := some .busy },
    .check (.ofNames ["foo"]) (.ofText ['a']) (some (.ofText ['r'])),
    .dump ⟨.fixed (.error (.listingNotText (.ofText toolName))), ⟨.coff, ∅⟩⟩ (.ofText ['a'])
      (some (.ofText ['o'])) {}]

/-- The dumps that fail leave the new snapshot and the old one as they are, and a check of the new one
compares with the dump that succeeded. -/
theorem history_of_failingDumps :
    let t := Inspector.referenceTree "old\n"
    let xs := freshDump :: failingDumps
    let text := Snapshot.encode (.ofList ["foo".toList]) (.ofTarget (.ofText ['a']) .coff)
    (run t xs).lookup [Utf8.encode ['o']] = some (.file ⟨0o644⟩ (Utf8.encode text)) ∧
      (run t xs).lookup [Utf8.encode ['r']] = some (.file .newFile (Utf8.encode "old\n".toList)) ∧
      ∃ v, ((Inspector.ofNames ["new"]).check (run t xs) (some (.ofText ['o']))
          (.ofText ['a'])).answer = .ok v ∧
        v.comparison = .between (Snapshot.decode text) (.ofList ["new".toList]) := by
  intro t xs text
  have ho : t.IsPlace (.ofText ['o']) :=
    ⟨⟨by decide, by decide, by decide, by decide⟩, .inl (by decide +kernel)⟩
  have hr : t.IsPlace (.ofText ['r']) :=
    ⟨⟨by decide, by decide, by decide, by decide⟩,
      .inr ⟨.newFile, Utf8.encode "old\n".toList, by decide +kernel⟩⟩
  have h : History t xs := by
    refine history_of_prefix (fun x hx => ?_) (fun x hx p hp => ?_) (List.prefix_refl xs)
    · simp only [xs, failingDumps, List.mem_cons, List.not_mem_nil, or_false] at hx
      rcases hx with rfl | rfl | rfl | rfl <;> exact fun _ _ => rfl
    · simp only [xs, failingDumps, List.mem_cons, List.not_mem_nil, or_false] at hx
      rcases hx with rfl | rfl | rfl | rfl <;> obtain rfl := Option.some.inj hp <;> assumption
  have hdump : ((Inspector.ofNames ["foo"]).dump t (.ofText ['a']) (some (.ofText ['o'])) {}).answer =
      .ok (.ofList ["foo".toList]) := by decide +kernel
  have hlater : lastRecord? (freshDump.files t) (.ofText ['o']) failingDumps = none := by
    decide +kernel
  have hlast : lastRecord? t (.ofText ['o']) xs = some text := by
    rw [lastRecord?, hlater, Option.none_or]
    exact record?_of_dump hdump
  have hnone : lastRecord? t (.ofText ['r']) xs = none := by decide +kernel
  have hmode : t.placeMode (.ofText ['o']) = ⟨0o644⟩ := by decide +kernel
  have hheld : t.held? (.ofText ['o']) (some text) = some (.file ⟨0o644⟩ (Utf8.encode text)) := by
    rw [FileTree.held?, hmode]
  have hreach : t.Reaches (.ofText ['o']) := ⟨⟨[], by decide +kernel⟩, by decide +kernel, by decide⟩
  have hnew : (Inspector.ofNames ["new"]).filter.extract (Inspector.exportTable ["new"]) =
      .ofList ["new".toList] := by decide +kernel
  refine ⟨?_, ?_, _, (h.check_answer _ _ _ _ ho).2 ⟨hreach, ⟨0o644⟩, text,
    Inspector.exportTable ["new"], hlast ▸ hheld, by decide, rfl, rfl⟩, ?_⟩
  · exact (h.held (.ofText ['o'])).trans (hlast ▸ hheld)
  · exact (h.held (.ofText ['r'])).trans (by rw [hnone]; decide +kernel)
  · rw [Verdict.comparison_ofComparison, hnew]

end Inspection

end ExportSurface
