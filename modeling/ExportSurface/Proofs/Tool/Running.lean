import ExportSurface.Tool.Source

/-!
# Asking the listing tool

What the source that runs the listing tool answers, by what became of the tool.

* `Source.ToolCourse` are the courses that it can take, each with its answer.
* `Source.ofTool_eq_iff`: the source takes the one that fits.
-/

namespace ExportSurface.Source

theorem listing_of_success {tool : Path} {r : ToolRun} (h : r.status = .exited 0) :
    r.listing tool =
      match Utf8.decode? r.output with
      | some listing => .ok listing
      | none => .error (.listingNotText tool) :=
  if_pos (decide_eq_true h)

theorem listing_of_failure {tool : Path} {r : ToolRun} (h : r.status ≠ .exited 0) :
    r.listing tool =
      .error (.toolFailed tool r.status (Text.trim (Utf8.decodeLossy r.complaint))) :=
  if_neg fun hs => h (of_decide_eq_true hs)

/-- What the listing tool is called with to list a library. -/
def toolArguments (platform : Platform) (target : Path) : List Bytes :=
  [Utf8.encode platform.listingOption, target.bytes]

/-- The courses of asking the listing tool for a library: no command line can name the tool or the
library, the tool is not started, it does not end in success, its output is no text, or its output is
the listing. -/
inductive ToolCourse (launch : Launcher) (tool : Path) (platform : Platform) (t : FileTree)
    (target : Path) : Except Failure Text × FileTree → Prop
  | zeroByte (hzero : 0 ∈ tool.bytes ∨ 0 ∈ target.bytes) :
      ToolCourse launch tool platform t target (.error (.toolNotStarted tool .zeroInCommand), t)
  | notStarted {cause : SystemError} {t' : FileTree} (hzero : ¬(0 ∈ tool.bytes ∨ 0 ∈ target.bytes))
      (hlaunch : launch t tool (toolArguments platform target) = (.error cause, t')) :
      ToolCourse launch tool platform t target (.error (.toolNotStarted tool cause), t')
  | failed {r : ToolRun} {t' : FileTree} (hzero : ¬(0 ∈ tool.bytes ∨ 0 ∈ target.bytes))
      (hlaunch : launch t tool (toolArguments platform target) = (.ok r, t'))
      (hstatus : r.status ≠ .exited 0) :
      ToolCourse launch tool platform t target
        (.error (.toolFailed tool r.status (Text.trim (Utf8.decodeLossy r.complaint))), t')
  | notText {r : ToolRun} {t' : FileTree} (hzero : ¬(0 ∈ tool.bytes ∨ 0 ∈ target.bytes))
      (hlaunch : launch t tool (toolArguments platform target) = (.ok r, t'))
      (hstatus : r.status = .exited 0) (houtput : Utf8.decode? r.output = none) :
      ToolCourse launch tool platform t target (.error (.listingNotText tool), t')
  | listed {r : ToolRun} {t' : FileTree} {raw : Text}
      (hzero : ¬(0 ∈ tool.bytes ∨ 0 ∈ target.bytes))
      (hlaunch : launch t tool (toolArguments platform target) = (.ok r, t'))
      (hstatus : r.status = .exited 0) (houtput : Utf8.decode? r.output = some raw) :
      ToolCourse launch tool platform t target (.ok raw, t')

variable {launch : Launcher} {tool : Path} {platform : Platform} {t : FileTree} {target : Path}

theorem ofTool_course :
    ToolCourse launch tool platform t target (ofTool launch tool platform t target) := by
  unfold ofTool
  split
  · next hzero => exact .zeroByte hzero
  next hzero =>
  split
  · next hlaunch => exact .notStarted hzero hlaunch
  next r t' hlaunch =>
  by_cases hstatus : r.status = .exited 0
  · rw [listing_of_success hstatus]
    split
    · next houtput => exact .listed hzero hlaunch hstatus houtput
    · next houtput => exact .notText hzero hlaunch hstatus houtput
  · rw [listing_of_failure hstatus]
    exact .failed hzero hlaunch hstatus

theorem ofTool_of_run {r : ToolRun} {t' : FileTree}
    (hzero : ¬(0 ∈ tool.bytes ∨ 0 ∈ target.bytes))
    (hlaunch : launch t tool (toolArguments platform target) = (.ok r, t')) :
    ofTool launch tool platform t target = (r.listing tool, t') := by
  rw [ofTool, if_neg hzero, ← toolArguments, hlaunch]

/-- **The source takes the course that fits the tool.** -/
theorem ofTool_eq_iff {x : Except Failure Text × FileTree} :
    ofTool launch tool platform t target = x ↔ ToolCourse launch tool platform t target x := by
  constructor
  · rintro rfl
    exact ofTool_course
  · intro h
    cases h with
    | zeroByte hzero => rw [ofTool, if_pos hzero]
    | notStarted hzero hlaunch => rw [ofTool, if_neg hzero, ← toolArguments, hlaunch]
    | failed hzero hlaunch hstatus =>
      rw [ofTool_of_run hzero hlaunch, listing_of_failure hstatus]
    | notText hzero hlaunch hstatus houtput =>
      rw [ofTool_of_run hzero hlaunch, listing_of_success hstatus, houtput]
    | listed hzero hlaunch hstatus houtput =>
      rw [ofTool_of_run hzero hlaunch, listing_of_success hstatus, houtput]

/-- Asking the tool takes one course only. -/
theorem ToolCourse.unique {x y : Except Failure Text × FileTree}
    (hx : ToolCourse launch tool platform t target x)
    (hy : ToolCourse launch tool platform t target y) : x = y :=
  (ofTool_eq_iff.2 hx).symm.trans (ofTool_eq_iff.2 hy)

end ExportSurface.Source
