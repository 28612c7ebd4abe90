import ExportSurface.Program
import ExportSurface.Proofs.Comparison.Printing
import ExportSurface.Proofs.IgnoreList.Loading
import ExportSurface.Proofs.Inspection.Rechecking
import ExportSurface.Proofs.Tool.Running

/-!
# How a run ends

A build passes or fails by the exit code of a run, and a pipeline reads its output. This module says
which ending belongs to what, for every command line that gives options.

* `Options.LacksOption`: the option that the task needs was not given.
* `Program.Obstacle` is what keeps a task from having a result, and `Program.Compared` says which two
  sets a check compares.
* `Program.Contract` is what the ending of a run promises, and `Program.run_contract` says that every
  run keeps it.
-/

namespace ExportSurface

/-! ## Verdicts -/

namespace Verdict

theorem isCompatible_iff {v : Verdict} : v.isCompatible ↔ v = .compatible := by
  cases v <;> simp [isCompatible]

theorem code_ofComparison (expected current : SymbolSet) :
    (ofComparison (.between expected current)).code = if expected = current then 0 else 255 := by
  simp only [code, isCompatible_iff, ofComparison_eq_compatible_iff]
  rfl

theorem render_text_ofComparison (c : Comparison) : (ofComparison c).render .text = c.report := by
  unfold ofComparison
  split
  · next h => exact (Comparison.report_eq_nil_iff.2 h).symm
  · rfl

theorem render_json_ofComparison (c : Comparison) :
    (ofComparison c).render .json = (ComparisonDocument.ofComparison c).render ++ ['\n'] := by
  rw [render, comparison_ofComparison]

end Verdict

/-! ## Options -/

/-- The option that the task needs was not given. -/
def Options.LacksOption (o : Options) : Prop :=
  o.task = .check ∧ o.reference = none ∨ o.task = .dump ∧ o.output = none

instance {o : Options} : Decidable o.LacksOption := inferInstanceAs (Decidable (_ ∨ _))

theorem Options.validate_eq (o : Options) :
    o.validate = if o.LacksOption then .error (.optionMissing o.task) else .ok () := by
  obtain ⟨task, reference, output, _⟩ := o
  cases task <;> cases reference <;> cases output <;> rfl

namespace Program

/-- The inspector of a run that ignores the symbols of the list. -/
def inspector (launch : Launcher) (o : Options) (ignored : IgnoreList) : Inspector :=
  ⟨.ofTool launch (toolPath o.toolDirectory) .host, ⟨.host, ignored⟩⟩

/-! ## What can happen -/

/-- The course of asking the tool of a run for its library. -/
abbrev AsksTool (launch : Launcher) (t : FileTree) (o : Options) :
    Except Failure Text × FileTree → Prop :=
  Source.ToolCourse launch (toolPath o.toolDirectory) .host t o.target

/-- What keeps the task of a run from having a result: an ignore file cannot be loaded, the reference
of a check cannot be read, the tool gives no listing, or the snapshot of a dump cannot be written to
the files that the tool left. -/
inductive Obstacle (launch : Launcher) (t : FileTree) (o : Options) (refusals : FileTree.Refusals) :
    Failure → Prop
  | ignoreFile {p : Path} {e : Failure} (hp : p ∈ o.ignoreFiles)
      (hload : IgnoreList.load t p = .error e) : Obstacle launch t o refusals e
  | reference {p : Path} {cause : SystemError} (htask : o.task = .check)
      (hp : o.reference = some p) (hread : t.readText p = .error cause) :
      Obstacle launch t o refusals (.referenceUnreadable p cause)
  | listing {e : Failure} {t' : FileTree} (htool : AsksTool launch t o (.error e, t')) :
      Obstacle launch t o refusals e
  | output {p : Path} {cause : SystemError} {ignored : IgnoreList} {raw : Text} {t' t'' : FileTree}
      (htask : o.task = .dump) (hp : o.output = some p) (hignored : o.ignoreList t = .ok ignored)
      (htool : AsksTool launch t o (.ok raw, t'))
      (hwrite : t'.replace p (Utf8.encode ((inspector launch o ignored).snapshotOf o.target
        ((inspector launch o ignored).filter.extract raw))) refusals = (.error cause, t'')) :
      Obstacle launch t o refusals (.snapshotUnwritable p cause)

/-- The sets of names that a check compares: what the text of the reference decodes to, and what is
extracted from the listing with the ignore list that the options ask for. -/
inductive Compared (launch : Launcher) (t : FileTree) (o : Options) : SymbolSet → SymbolSet → Prop
  | intro {p : Path} {text raw : Text} {ignored : IgnoreList} {t' : FileTree}
      (hp : o.reference = some p) (hread : t.readText p = .ok text)
      (hignored : o.ignoreList t = .ok ignored) (htool : AsksTool launch t o (.ok raw, t')) :
      Compared launch t o (Snapshot.decode text) (ExportFilter.extract ⟨.host, ignored⟩ raw)

/-- **What the ending of a run promises.** -/
structure Contract (launch : Launcher) (t : FileTree) (o : Options) (refusals : FileTree.Refusals)
    (e : Ending) : Prop where
  /-- Exit code 254 stands for the missing option. -/
  configuration_iff : e.code = 254 ↔ o.LacksOption
  /-- If the option is missing, the ending depends on nothing else: the tool is not asked, no file is
  looked at and none is changed. -/
  configuration : o.LacksOption →
    e = ⟨254, (Failure.optionMissing o.task).message ++ ['\n'], [], t, []⟩
  /-- Exit code 1 stands for an obstacle. -/
  failure_iff : e.code = 1 ↔ ¬o.LacksOption ∧ ∃ f, Obstacle launch t o refusals f
  /-- A run with exit code 1 complains of an obstacle and has no output. Besides the complaint the
  standard error stream carries the lines of the log, if the options ask for it. -/
  failure : e.code = 1 → e.output = [] ∧
    ∃ f, Obstacle launch t o refusals f ∧ f.isConfiguration = false ∧ e.complaint = f.complaint
  /-- Any other dump has exit code 0 and no output. -/
  dump : o.task = .dump → e.code ≠ 254 → e.code ≠ 1 → e.code = 0 ∧ e.output = []
  /-- Any other check has compared two sets. Its code says whether they are equal, and so does its
  output, be it the report of the comparison or a document with a line feed behind it. -/
  check : o.task = .check → e.code ≠ 254 → e.code ≠ 1 →
    ∃ expected current, Compared launch t o expected current ∧
      e.code = (if expected = current then 0 else 255) ∧
      (o.format = .text →
        e.output = (Comparison.between expected current).report ∧ (e.output = [] ↔ e.code = 0)) ∧
      (o.format = .json → ∃ text d, e.output = text ++ ['\n'] ∧
        ComparisonDocument.parse? text = some d ∧ d = .ofComparison (.between expected current) ∧
        (d.compatible ↔ e.code = 0))

/-! ## Obstacles -/

section

variable {launch : Launcher} {t : FileTree} {o : Options} {refusals : FileTree.Refusals}

theorem Obstacle.isConfiguration_eq_false {f : Failure} (h : Obstacle launch t o refusals f) :
    f.isConfiguration = false := by
  cases h with
  | ignoreFile _ hload =>
    rcases IgnoreList.load_eq_error hload with ⟨_, rfl⟩ | rfl <;> rfl
  | reference => rfl
  | listing htool => cases htool <;> rfl
  | output => rfl

theorem exists_obstacle_of_ignoreList {e : Failure} (h : o.ignoreList t = .error e) :
    Obstacle launch t o refusals e := by
  obtain ⟨before, p, after, heq, -, hload⟩ := IgnoreList.loadAll_eq_error_iff.1 h
  exact .ignoreFile (heq ▸ List.mem_append_right before List.mem_cons_self) hload

/-- With the ignore files loaded and the library listed, a check fails by its reference only. -/
theorem not_obstacle_of_read {ignored : IgnoreList} {raw text : Text} {t' : FileTree} {p : Path}
    (hignored : o.ignoreList t = .ok ignored) (htool : AsksTool launch t o (.ok raw, t'))
    (htask : o.task = .check) (hp : o.reference = some p) (hread : t.readText p = .ok text)
    (f : Failure) : ¬Obstacle launch t o refusals f := by
  intro h
  cases h with
  | ignoreFile hmem hload => exact IgnoreList.load_ne_error_of_loadAll hignored hmem hload
  | reference _ hp' hread' =>
    obtain rfl := Option.some.inj (hp.symm.trans hp')
    cases hread.symm.trans hread'
  | listing htool' => cases htool.unique htool'
  | output htask' => cases htask.symm.trans htask'

/-- With the ignore files loaded and the library listed, a dump fails by its output only. -/
theorem not_obstacle_of_written {ignored : IgnoreList} {raw : Text} {t' t'' : FileTree} {p : Path}
    (hignored : o.ignoreList t = .ok ignored) (htool : AsksTool launch t o (.ok raw, t'))
    (htask : o.task = .dump) (hp : o.output = some p)
    (hwrite : t'.replace p (Utf8.encode ((inspector launch o ignored).snapshotOf o.target
      ((inspector launch o ignored).filter.extract raw))) refusals = (.ok (), t''))
    (f : Failure) : ¬Obstacle launch t o refusals f := by
  intro h
  cases h with
  | ignoreFile hmem hload => exact IgnoreList.load_ne_error_of_loadAll hignored hmem hload
  | reference htask' => cases htask.symm.trans htask'
  | listing htool' => cases htool.unique htool'
  | output _ hp' hignored' htool' hwrite' =>
    obtain rfl := Option.some.inj (hp.symm.trans hp')
    obtain rfl := Except.ok.inj (hignored.symm.trans hignored')
    cases htool.unique htool'
    cases hwrite.symm.trans hwrite'

/-! ## Endings that keep the contract -/

theorem contract_of_lacksOption (h : o.LacksOption) : Contract launch t o refusals
    ⟨configurationCode, (Failure.optionMissing o.task).message ++ ['\n'], [], t, []⟩ where
  configuration_iff := iff_of_true rfl h
  configuration _ := rfl
  failure_iff := iff_of_false nofun fun hf => hf.1 h
  failure := nofun
  dump _ hc := absurd rfl hc
  check _ hc := absurd rfl hc

theorem contract_of_failed (hl : ¬o.LacksOption) {f : Failure}
    (h : Obstacle launch t o refusals f) (t' : FileTree) (asked : List Path) :
    Contract launch t o refusals (failed f t' asked) where
  configuration_iff := iff_of_false nofun hl
  configuration hl' := absurd hl' hl
  failure_iff := iff_of_true rfl ⟨hl, f, h⟩
  failure _ := ⟨rfl, f, h, h.isConfiguration_eq_false, rfl⟩
  dump _ _ hc := absurd rfl hc
  check _ _ hc := absurd rfl hc

theorem contract_of_written (hl : ¬o.LacksOption) (htask : o.task = .dump)
    (hno : ∀ f, ¬Obstacle launch t o refusals f) (t' : FileTree) (asked : List Path) :
    Contract launch t o refusals ⟨successCode, [], [], t', asked⟩ where
  configuration_iff := iff_of_false nofun hl
  configuration hl' := absurd hl' hl
  failure_iff := iff_of_false nofun fun ⟨_, f, hf⟩ => hno f hf
  failure := nofun
  dump _ _ _ := ⟨rfl, rfl⟩
  check htask' := absurd (htask.symm.trans htask') nofun

theorem contract_of_compared (hl : ¬o.LacksOption) (htask : o.task = .check)
    (hno : ∀ f, ¬Obstacle launch t o refusals f) {expected current : SymbolSet}
    (h : Compared launch t o expected current) (t' : FileTree) (asked : List Path) :
    Contract launch t o refusals
      ⟨(Verdict.ofComparison (.between expected current)).code,
        (Verdict.ofComparison (.between expected current)).render o.format, [], t', asked⟩ := by
  have hcode := Verdict.code_ofComparison expected current
  have hzero : (Verdict.ofComparison (.between expected current)).code = 0 ↔
      (Comparison.between expected current).isCompatible := by
    rw [hcode, Comparison.isCompatible_between_iff]
    split_ifs with heq <;> simp [heq]
  have hne : ∀ n, n ≠ 0 → n ≠ 255 →
      (Verdict.ofComparison (.between expected current)).code ≠ n := by
    intro n h₀ h₂₅₅
    rw [hcode]
    split_ifs
    · exact h₀.symm
    · exact h₂₅₅.symm
  exact {
    configuration_iff := iff_of_false (hne 254 (by decide) (by decide)) hl
    configuration := fun hl' => absurd hl' hl
    failure_iff := iff_of_false (hne 1 (by decide) (by decide)) fun ⟨_, f, hf⟩ => hno f hf
    failure := fun hc => absurd hc (hne 1 (by decide) (by decide))
    dump := fun htask' => absurd (htask.symm.trans htask') nofun
    check := fun _ _ _ => by
      refine ⟨expected, current, h, hcode, fun hformat => ?_, fun hformat => ?_⟩
      · rw [hformat, Verdict.render_text_ofComparison]
        exact ⟨rfl, Comparison.report_eq_nil_iff.trans hzero.symm⟩
      · rw [hformat, Verdict.render_json_ofComparison]
        exact ⟨_, _, rfl, ComparisonDocument.parse?_render _, rfl, hzero.symm⟩ }

/-! ## Runs -/

theorem perform_of_ignoreList {ignored : IgnoreList} (hl : ¬o.LacksOption)
    (hignored : o.ignoreList t = .ok ignored) :
    perform launch t o refusals = inspect (inspector launch o ignored) o t refusals := by
  rw [perform, o.validate_eq, if_neg hl, hignored]
  rfl

/-- A dump of a run whose ignore files are loaded keeps the contract. -/
theorem contract_of_dump {ignored : IgnoreList} (hl : ¬o.LacksOption)
    (hignored : o.ignoreList t = .ok ignored) (htask : o.task = .dump) :
    Contract launch t o refusals (inspect (inspector launch o ignored) o t refusals) := by
  have hcourse := (inspector launch o ignored).dump_course t o.target o.output refusals
  rw [inspect, htask]
  generalize hp : o.output = output at hcourse
  generalize (inspector launch o ignored).dump t o.target output refusals = x at hcourse ⊢
  cases hcourse with
  | optionMissing => exact absurd (.inr ⟨htask, hp⟩) hl
  | noListing hsource =>
    exact contract_of_failed hl (.listing (Source.ofTool_eq_iff.1 hsource)) _ _
  | unwritten hsource hwrite =>
    exact contract_of_failed hl
      (.output htask hp hignored (Source.ofTool_eq_iff.1 hsource) hwrite) _ _
  | written hsource hwrite =>
    exact contract_of_written hl htask
      (not_obstacle_of_written hignored (Source.ofTool_eq_iff.1 hsource) htask hp hwrite) _ _

/-- A check of a run whose ignore files are loaded keeps the contract. -/
theorem contract_of_check {ignored : IgnoreList} (hl : ¬o.LacksOption)
    (hignored : o.ignoreList t = .ok ignored) (htask : o.task = .check) :
    Contract launch t o refusals (inspect (inspector launch o ignored) o t refusals) := by
  have hcourse := (inspector launch o ignored).check_course t o.target o.reference
  rw [inspect, htask]
  generalize hp : o.reference = reference at hcourse
  generalize (inspector launch o ignored).check t reference o.target = x at hcourse ⊢
  cases hcourse with
  | optionMissing => exact absurd (.inl ⟨htask, hp⟩) hl
  | noReference hread => exact contract_of_failed hl (.reference htask hp hread) _ _
  | noListing hread hsource =>
    exact contract_of_failed hl (.listing (Source.ofTool_eq_iff.1 hsource)) _ _
  | compared hread hsource =>
    have htool := Source.ofTool_eq_iff.1 hsource
    exact contract_of_compared hl htask (not_obstacle_of_read hignored htool htask hp hread)
      ⟨hp, hread, hignored, htool⟩ _ _

/-- **Every run whose command line gives options keeps the contract**, whatever the files are, the
tool does and the disk refuses. -/
theorem run_contract {arguments : List Bytes} {environment : Option Bytes}
    (h : CommandLine.read arguments environment = .ok o) :
    Contract launch t o refusals (run launch t arguments environment refusals) := by
  rw [run, h]
  dsimp only
  by_cases hl : o.LacksOption
  · rw [perform, o.validate_eq, if_pos hl]
    exact contract_of_lacksOption hl
  cases hignored : o.ignoreList t with
  | error e =>
    rw [perform, o.validate_eq, if_neg hl, hignored]
    exact contract_of_failed hl (exists_obstacle_of_ignoreList hignored) _ _
  | ok ignored =>
    rw [perform_of_ignoreList hl hignored]
    cases htask : o.task with
    | dump => exact contract_of_dump hl hignored htask
    | check => exact contract_of_check hl hignored htask

/-- A symbol table that exports the given names. -/
def symbolTable (names : List String) : Text :=
  names.flatMap fun n => "Symbol \x7b\n  Name: ".toList ++ n.toList ++
    " (1)\n  Binding: Global (0x1)\n  Type: Function (0x2)\n  Section: .text (0xE)\n\x7d\n".toList

/-- A tool that prints a text and changes no files. -/
def printing (listing : Text) : Launcher := fun t _ _ =>
  (.ok ⟨.exited 0, Utf8.encode listing, []⟩, t)

/-- The options of a check that reports in JSON. -/
def checkOptions (reference : Option Path) (ignoreFiles : List Path) : Options where
  task := .check
  reference := reference
  output := none
  toolDirectory := []
  ignoreFiles := ignoreFiles
  skipsToolchain := false
  format := .json
  debug := false
  target := .ofText ['a']

/-- Without a reference, with an ignore file that is not there; with both; and with a reference that
the library differs from. -/
theorem run_contract_referenceTree :
    let run (words : List String) :=
      run (printing (symbolTable ["foo"])) (Inspector.referenceTree "old\n")
        (words.map fun w => Utf8.encode w.toList) none
    run ["--mode=check_symbols", "--ignore-file=absent", "--format=json", "a"] =
        ⟨254, "Please specify --reference option. Quitting.\n".toList, [],
          Inspector.referenceTree "old\n", []⟩ ∧
      (run ["--mode=check_symbols", "--reference=r", "--ignore-file=absent", "--format=json",
        "a"]).code = 1 ∧
      ∃ text d, (run ["--mode=check_symbols", "--reference=r", "--format=json", "a"]).output =
          text ++ ['\n'] ∧
        ComparisonDocument.parse? text = some d ∧ d.compatible = false := by
  intro run
  refine ⟨?_, ?_, ?_⟩
  · have hread : CommandLine.read (["--mode=check_symbols", "--ignore-file=absent",
        "--format=json", "a"].map fun w => Utf8.encode w.toList) none =
          .ok (checkOptions none [.ofText "absent".toList]) := by
      decide +kernel
    exact (run_contract hread).configuration (.inl ⟨rfl, rfl⟩)
  · have hread : CommandLine.read (["--mode=check_symbols", "--reference=r",
        "--ignore-file=absent", "--format=json", "a"].map fun w => Utf8.encode w.toList) none =
          .ok (checkOptions (some (.ofText ['r'])) [.ofText "absent".toList]) := by
      decide +kernel
    have hload : IgnoreList.load (Inspector.referenceTree "old\n") (.ofText "absent".toList) =
        .error (.ignoreFileUnreadable (.ofText "absent".toList) .notFound) := by
      decide +kernel
    exact (run_contract hread).failure_iff.2
      ⟨by decide, _, .ignoreFile List.mem_cons_self hload⟩
  · have hread : CommandLine.read (["--mode=check_symbols", "--reference=r", "--format=json",
        "a"].map fun w => Utf8.encode w.toList) none =
          .ok (checkOptions (some (.ofText ['r'])) []) := by
      decide +kernel
    have hcode : (run ["--mode=check_symbols", "--reference=r", "--format=json", "a"]).code =
        255 := by
      decide +kernel
    obtain ⟨_, _, -, -, -, hjson⟩ := (run_contract hread).check rfl
      (fun h => absurd (hcode.symm.trans h) (by decide))
      (fun h => absurd (hcode.symm.trans h) (by decide))
    obtain ⟨text, d, htext, hparse, -, hverdict⟩ := hjson rfl
    refine ⟨text, d, htext, hparse, Bool.eq_false_iff.2 fun h => ?_⟩
    exact absurd (hcode.symm.trans (hverdict.1 h)) (by decide)

end

end Program

end ExportSurface
