import ExportSurface.Proofs.Inspection.Answers
import ExportSurface.Proofs.Text.Lossy
import ExportSurface.Proofs.Text.Words
import ExportSurface.Proofs.Tool.Running

/-!
# What is taken from a run of the tool

The output of the listing tool is taken as a whole or not at all.

* `ToolRun.listing_eq_ok_iff`, `ToolRun.listing_eq_notText_iff` and `ToolRun.exists_listing_eq_failed`:
  which listing a run gives, said of its bytes.
* `Source.takes_whole_outputs` puts this together for the tool of a directory.
-/

namespace ExportSurface

/-! ## The listing of a run -/

namespace ToolRun

open Source

variable {tool : Path} {r : ToolRun}

theorem listing_eq_ok_iff {raw : Text} :
    r.listing tool = .ok raw ↔ r.status = .exited 0 ∧ r.output = Utf8.encode raw := by
  by_cases hstatus : r.status = .exited 0
  · rw [listing_of_success hstatus, ← Utf8.decode?_eq_some_iff]
    cases Utf8.decode? r.output <;> simp [hstatus]
  · rw [listing_of_failure hstatus]
    simp [hstatus]

theorem listing_eq_notText_iff :
    r.listing tool = .error (.listingNotText tool) ↔
      r.status = .exited 0 ∧ ∀ raw, r.output ≠ Utf8.encode raw := by
  by_cases hstatus : r.status = .exited 0
  · rw [listing_of_success hstatus, ← Utf8.decode?_eq_none_iff]
    cases Utf8.decode? r.output <;> simp [hstatus]
  · rw [listing_of_failure hstatus]
    simp [hstatus]

/-- A failed run gives its status and the trimmed text of what it complained of. -/
theorem exists_listing_eq_failed (hstatus : r.status ≠ .exited 0) :
    ∃ shown complaint, Utf8.Shows r.complaint shown ∧ Text.IsTrimmed complaint shown ∧
      r.listing tool = .error (.toolFailed tool r.status complaint) :=
  ⟨_, _, Utf8.shows_decodeLossy r.complaint, Text.isTrimmed_iff.2 rfl, listing_of_failure hstatus⟩

end ToolRun

/-! ## The tool of a directory -/

namespace Source

/-- **The output of the tool is taken as a whole or not at all.** Whatever a tool that was started
printed and however it ended, its listing is a text exactly if it ended with exit code 0 and printed the
bytes of that text. If it ended otherwise, the answer says how, with the trimmed text of what it
complained of, and if what it printed is the bytes of no text, the answer says that. So the names of a
library are never those of a part of an output. -/
theorem takes_whole_outputs {launch : Launcher} {directory : Text} {platform : Platform}
    {t t' : FileTree} {target : Path} {r : ToolRun}
    (hzero : ¬(0 ∈ (toolPath directory).bytes ∨ 0 ∈ target.bytes))
    (hlaunch : launch t (toolPath directory) (toolArguments platform target) = (.ok r, t')) :
    let tool := toolPath directory
    let source := ofTool launch tool platform
    (∀ raw, (source t target).1 = .ok raw ↔ r.status = .exited 0 ∧ r.output = Utf8.encode raw) ∧
    (r.status ≠ .exited 0 → ∃ shown complaint, Utf8.Shows r.complaint shown ∧
      Text.IsTrimmed complaint shown ∧
      (source t target).1 = .error (.toolFailed tool r.status complaint)) ∧
    ((source t target).1 = .error (.listingNotText tool) ↔
      r.status = .exited 0 ∧ ∀ raw, r.output ≠ Utf8.encode raw) ∧
    ∀ (f : ExportFilter) (symbols : SymbolSet),
      ((⟨source, f⟩ : Inspector).extract t target).answer = .ok symbols ↔
        r.status = .exited 0 ∧ ∃ raw, r.output = Utf8.encode raw ∧ symbols = f.extract raw := by
  intro tool source
  have hanswer : (source t target).1 = r.listing tool :=
    congrArg Prod.fst (ofTool_of_run hzero hlaunch)
  refine ⟨fun raw => ?_, fun hstatus => ?_, ?_, fun f symbols => ?_⟩
  · rw [hanswer, ToolRun.listing_eq_ok_iff]
  · rw [hanswer]
    exact ToolRun.exists_listing_eq_failed hstatus
  · rw [hanswer, ToolRun.listing_eq_notText_iff]
  · rw [Inspector.extract_eq_ok_iff]
    simp only [hanswer, ToolRun.listing_eq_ok_iff, and_assoc, exists_and_left]

/-- A tool whose runs are all the given one. -/
def leaving (r : ToolRun) : Launcher := fun t _ _ => (.ok r, t)

/-- A tool that is killed when it has printed a whole listing, and one that ends within a character. -/
theorem takes_whole_outputs_brokenRuns :
    let listing := Utf8.encode "Export \x7b\n  Name: foo\n\x7d\n".toList
    let killed : ToolRun := ⟨.signaled 9, listing, [0x20, 0xE2, 0x82, 0x78, 0x0A]⟩
    let cutOff : ToolRun := ⟨.exited 0, listing ++ [0xE2, 0x82], []⟩
    let answer (r : ToolRun) := (ofTool (leaving r) (toolPath []) .coff default ⟨[0x61]⟩).1
    answer killed = .error (.toolFailed (toolPath []) (.signaled 9) "\uFFFDx".toList) ∧
      answer cutOff = .error (.listingNotText (toolPath [])) := by
  intro listing killed cutOff answer
  have hzero : ¬(0 ∈ (toolPath []).bytes ∨ 0 ∈ (⟨[0x61]⟩ : Path).bytes) := by decide +kernel
  have hlaunch (r : ToolRun) : leaving r default (toolPath [])
      (toolArguments .coff ⟨[0x61]⟩) = (.ok r, default) := rfl
  constructor
  · obtain ⟨shown, complaint, hshown, hcomplaint, hanswer⟩ :=
      (takes_whole_outputs hzero (hlaunch killed)).2.1 (by decide)
    rw [← Utf8.shows_iff.1 hshown] at hcomplaint
    rw [← Text.isTrimmed_iff.1 hcomplaint] at hanswer
    exact hanswer.trans (by decide +kernel)
  · have hbroken : Utf8.decode? cutOff.output = none := by decide +kernel
    exact (takes_whole_outputs hzero (hlaunch cutOff)).2.2.1.2
      ⟨rfl, Utf8.decode?_eq_none_iff.1 hbroken⟩

end Source

end ExportSurface
