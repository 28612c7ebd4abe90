import ExportSurface.Proofs.FileTree.Reading
import ExportSurface.Proofs.Inspection.Rechecking

/-!
# The order of faults

Several things can be wrong with an inspection at once, and the first one in a fixed order is the one
that it reports: an option that is missing, then the reference, then the source, and writing last.
What comes before the source is found out without asking it, and whatever else is wrong it is asked
once.

* `Inspector.DumpContract` and `Inspector.CheckContract` say so of the outcome of a dump and of a check,
  and what a check answers if nothing is wrong.
* `Inspector.keeps_contracts`: every dump and every check keeps its contract.
-/

namespace ExportSurface

/-- A verdict diverges with differences only. -/
theorem Verdict.differs_of_ofComparison_eq_diverged {c c' : Comparison}
    (h : ofComparison c = .diverged c') : c'.missing ≠ ∅ ∨ c'.added ≠ ∅ := by
  have hc : c'.isCompatible = false := by
    unfold ofComparison at h
    split at h
    · cases h
    · next hc =>
      obtain rfl := Verdict.diverged.inj h
      simpa using hc
  rw [Comparison.isCompatible, Bool.and_eq_false_iff] at hc
  refine hc.imp (fun hmissing heq => ?_) (fun hadded heq => ?_)
  · simp [SymbolSet.isEmpty_iff.2 heq] at hmissing
  · simp [SymbolSet.isEmpty_iff.2 heq] at hadded

namespace Inspector

/-! ## Contracts -/

/-- **What the outcome of a dump promises.** -/
structure DumpContract (i : Inspector) (t : FileTree) (target : Path) (output : Option Path)
    (o : Outcome SymbolSet) : Prop where
  /-- Without an output nothing is asked and nothing is changed, whatever else is wrong. -/
  optionMissing : output = none → o = ⟨.error (.optionMissing .dump), t, []⟩
  /-- With an output the source is asked once. -/
  asked : output ≠ none → o.asked = [target]
  /-- The failure of the source is passed on, and nothing is written. -/
  noListing : ∀ e, output ≠ none → (i.source t target).1 = .error e →
    o.answer = .error e ∧ o.files = (i.source t target).2
  /-- With a listing only writing can fail. -/
  listed : ∀ p raw, output = some p → (i.source t target).1 = .ok raw →
    o.answer = .ok (i.filter.extract raw) ∨ ∃ cause, o.answer = .error (.snapshotUnwritable p cause)

/-- **What the outcome of a check promises.** -/
structure CheckContract (i : Inspector) (t : FileTree) (target : Path) (reference : Option Path)
    (o : Outcome Verdict) : Prop where
  /-- Without a reference nothing is asked, whatever else is wrong. -/
  optionMissing : reference = none → o = ⟨.error (.optionMissing .check), t, []⟩
  /-- A reference that cannot be opened and read is reported without asking the source. -/
  unread : ∀ p cause, reference = some p → t.readBytes p = .error cause →
    o = ⟨.error (.referenceUnreadable p cause), t, []⟩
  /-- So is a reference whose bytes are not those of a text. -/
  notText : ∀ p content, reference = some p → t.readBytes p = .ok content →
    (∀ text, content ≠ Utf8.encode text) → o = ⟨.error (.referenceUnreadable p .notText), t, []⟩
  /-- With the bytes of a text the source is asked once. -/
  asked : ∀ p text, reference = some p → t.readBytes p = .ok (Utf8.encode text) → o.asked = [target]
  /-- The failure of the source is passed on. -/
  noListing : ∀ p text e, reference = some p → t.readBytes p = .ok (Utf8.encode text) →
    (i.source t target).1 = .error e → o.answer = .error e
  /-- With a listing there is a verdict. It holds the comparison of the reference with the extracted
  names, is favourable exactly if they are the same, and diverges with differences only. -/
  compared : ∀ p text raw, reference = some p → t.readBytes p = .ok (Utf8.encode text) →
    (i.source t target).1 = .ok raw → ∃ v, o.answer = .ok v ∧
      v.comparison = .between (Snapshot.decode text) (i.filter.extract raw) ∧
      (v = .compatible ↔ Snapshot.decode text = i.filter.extract raw) ∧
      ∀ c, v = .diverged c → c.missing ≠ ∅ ∨ c.added ≠ ∅
  /-- The files are changed by the source only, if it is asked and changes any. -/
  files : o.files = if o.asked = [] then t else (i.source t target).2

/-! ## Outcomes that keep them -/

variable {i : Inspector} {t : FileTree} {target : Path} {reference output : Option Path}

theorem dump_contract (i : Inspector) (t : FileTree) (target : Path) (output : Option Path)
    (refusals : FileTree.Refusals) :
    i.DumpContract t target output (i.dump t target output refusals) := by
  have hcourse := i.dump_course t target output refusals
  generalize i.dump t target output refusals = o at hcourse ⊢
  cases hcourse with
  | optionMissing =>
    exact ⟨fun _ => rfl, fun h => absurd rfl h, fun _ h => absurd rfl h, nofun⟩
  | noListing hsource =>
    refine ⟨nofun, fun _ => rfl, fun e _ he => ?_, fun p raw _ hraw => ?_⟩
    · rw [hsource] at he ⊢
      exact ⟨congrArg _ (Except.error.inj he), rfl⟩
    · rw [hsource] at hraw
      cases hraw
  | unwritten hsource hwrite =>
    refine ⟨nofun, fun _ => rfl, fun e _ he => ?_, fun p raw hp _ => ?_⟩
    · rw [hsource] at he
      cases he
    · obtain rfl := Option.some.inj hp
      exact .inr ⟨_, rfl⟩
  | written hsource hwrite =>
    refine ⟨nofun, fun _ => rfl, fun e _ he => ?_, fun p raw _ hraw => ?_⟩
    · rw [hsource] at he
      cases he
    · rw [hsource] at hraw
      obtain rfl := Except.ok.inj hraw
      exact .inl rfl

/-- A check that stops at its reference. -/
theorem check_contract_of_unread {p : Path} {cause : SystemError}
    (hread : t.readText p = .error cause) :
    i.CheckContract t target (some p) ⟨.error (.referenceUnreadable p cause), t, []⟩ := by
  have hnone {q : Path} {text : Text} (hq : some p = some q)
      (htext : t.readBytes q = .ok (Utf8.encode text)) : False := by
    obtain rfl := Option.some.inj hq
    cases hread.symm.trans (FileTree.readText_eq_ok_iff.2 htext)
  refine ⟨nofun, fun q cause' hq hcause => ?_, fun q content hq hcontent hno => ?_,
    fun q text hq htext => (hnone hq htext).elim, fun q text e hq htext => (hnone hq htext).elim,
    fun q text raw hq htext => (hnone hq htext).elim, rfl⟩
  · obtain rfl := Option.some.inj hq
    obtain rfl := Except.error.inj (hread.symm.trans (FileTree.readText_of_unread hcause))
    rfl
  · obtain rfl := Option.some.inj hq
    obtain rfl := Except.error.inj (hread.symm.trans (FileTree.readText_of_not_text hcontent hno))
    rfl

/-- A check that reads its reference asks the source, so its answer decides the rest. -/
theorem check_contract_of_read {p : Path} {text : Text} {t' : FileTree}
    {answer : Except Failure Verdict} (hread : t.readText p = .ok text)
    (hfiles : (i.source t target).2 = t')
    (hfailed : ∀ e, (i.source t target).1 = .error e → answer = .error e)
    (hlisted : ∀ raw, (i.source t target).1 = .ok raw →
      answer = .ok (.ofComparison (.between (Snapshot.decode text) (i.filter.extract raw)))) :
    i.CheckContract t target (some p) ⟨answer, t', [target]⟩ := by
  have hbytes := FileTree.readText_eq_ok_iff.1 hread
  refine ⟨nofun, fun q cause hq hcause => ?_, fun q content hq hcontent hno => ?_, fun _ _ _ _ => rfl,
    fun q text' e hq _ he => hfailed e he, fun q text' raw hq htext hraw => ?_, hfiles.symm⟩
  · obtain rfl := Option.some.inj hq
    cases hbytes.symm.trans hcause
  · obtain rfl := Option.some.inj hq
    obtain rfl := Except.ok.inj (hbytes.symm.trans hcontent)
    exact absurd rfl (hno text)
  · obtain rfl := Option.some.inj hq
    obtain rfl := Except.ok.inj (hread.symm.trans (FileTree.readText_eq_ok_iff.2 htext))
    exact ⟨_, hlisted raw hraw, Verdict.comparison_ofComparison _,
      Verdict.ofComparison_eq_compatible_iff, fun c => Verdict.differs_of_ofComparison_eq_diverged⟩

theorem check_contract (i : Inspector) (t : FileTree) (target : Path) (reference : Option Path) :
    i.CheckContract t target reference (i.check t reference target) := by
  have hcourse := i.check_course t target reference
  generalize i.check t reference target = o at hcourse ⊢
  cases hcourse with
  | optionMissing => exact ⟨fun _ => rfl, nofun, nofun, nofun, nofun, nofun, rfl⟩
  | noReference hread => exact check_contract_of_unread hread
  | noListing hread hsource =>
    refine check_contract_of_read hread (congrArg Prod.snd hsource) (fun e he => ?_) fun raw hraw => ?_
    · rw [hsource] at he
      exact congrArg _ (Except.error.inj he)
    · rw [hsource] at hraw
      cases hraw
  | compared hread hsource =>
    refine check_contract_of_read hread (congrArg Prod.snd hsource) (fun e he => ?_) fun raw hraw => ?_
    · rw [hsource] at he
      cases he
    · rw [hsource] at hraw
      obtain rfl := Except.ok.inj hraw
      rfl

/-- **Inspections fail fast and in order.** Whatever the files, the source, the filter and the options
are, every dump and every check keeps its contract. -/
theorem keeps_contracts (i : Inspector) (t : FileTree) (target : Path) :
    (∀ output refusals, i.DumpContract t target output (i.dump t target output refusals)) ∧
      ∀ reference, i.CheckContract t target reference (i.check t reference target) :=
  ⟨i.dump_contract t target, i.check_contract t target⟩

/-- A source that fails, with a missing option, with a reference that is no text, and with one that
is. -/
theorem keeps_contracts_failing_source :
    let t := (referenceTree "old\n").put [Utf8.encode ['b']] (.file .newFile [0xFF])
    let e : Failure := .listingNotText (.ofText toolName)
    let i : Inspector := ⟨.fixed (.error e), ⟨.elf, ∅⟩⟩
    let check (reference : Option Path) := i.check t reference (.ofText ['a'])
    check none = ⟨.error (.optionMissing .check), t, []⟩ ∧
      check (some (.ofText ['b'])) = ⟨.error (.referenceUnreadable (.ofText ['b']) .notText), t, []⟩ ∧
      (check (some (.ofText ['r']))).answer = .error e ∧
      (check (some (.ofText ['r']))).asked = [.ofText ['a']] := by
  intro t e i check
  have hkeeps := (i.keeps_contracts t (.ofText ['a'])).2
  have hb : t.readBytes (.ofText ['b']) = .ok [0xFF] := by decide +kernel
  have hnone : Utf8.decode? [0xFF] = none := by decide +kernel
  have hno (text : Text) : [0xFF] ≠ Utf8.encode text := fun htext => by
    simpa [hnone] using Utf8.decode?_eq_some_iff.2 htext
  have hr : t.readBytes (.ofText ['r']) = .ok (Utf8.encode "old\n".toList) := by decide +kernel
  exact ⟨(hkeeps _).optionMissing rfl, (hkeeps _).notText _ _ rfl hb hno,
    (hkeeps _).noListing _ _ e rfl hr rfl, (hkeeps _).asked _ _ rfl hr⟩

end Inspector

end ExportSurface
