import ExportSurface.FileTree.Mode
import ExportSurface.Path

/-!
# File trees

A file tree lists what stands at each location: a file, a directory, a symbolic link or a void. Of
several entries for one location the first counts; `put` and `erase` never leave an older one behind.

* `lookup_put_self` and `lookup_put_of_ne` say what stands where after an entry was put.
* `lookup_erase_self` and `lookup_erase_of_ne` say the same of removing.
* `erase_put` and `erase_eq_self` together say that an entry put at a free location and removed again
  leaves no trace.
-/

namespace ExportSurface

/-- The names that lead from the root to a place, the last one first. -/
abbrev Location := List Name

/-- What stands at a location. -/
inductive Node where
  | file (mode : Mode) (content : Bytes)
  | directory (mode : Mode)
  | link (target : Path)
  /-- What gives nothing when it is read and keeps nothing that is written to it. -/
  | void
  deriving DecidableEq, Repr, Inhabited

/-- The entries of a file system, as one process sees them. -/
structure FileTree where
  entries : List (Location × Node)
  /-- Where paths start that do not start at the root. -/
  workingDirectory : Location
  /-- The bits of a mode that new entries do not get. -/
  withheld : Mode
  /-- The place at and under which everything belongs to the one who uses the tree. -/
  property : Location
  deriving DecidableEq, Repr, Inhabited

namespace FileTree

/-- What stands at a location. -/
def lookup (t : FileTree) (l : Location) : Option Node := t.entries.lookup l

/-- The tree without the entry at a location. -/
def erase (t : FileTree) (l : Location) : FileTree :=
  { t with entries := t.entries.filter (·.1 ≠ l) }

/-- The tree with an entry put at a location, in the place of what stood there. -/
def put (t : FileTree) (l : Location) (n : Node) : FileTree :=
  { t with entries := (l, n) :: (t.erase l).entries }

/-- The names in a directory, each as often as it is listed. -/
def namesIn (t : FileTree) (l : Location) : List Name :=
  t.entries.filterMap fun (k, _) =>
    match k with
    | n :: d => if d = l then some n else none
    | [] => none

/-! ## Looking up -/

theorem lookup_erase_self (t : FileTree) (l : Location) : (t.erase l).lookup l = none := by
  simp only [lookup, erase, List.lookup_eq_none_iff]
  intro e he
  have : e.1 ≠ l := by simpa using (List.mem_filter.1 he).2
  simpa using this.symm

theorem lookup_erase_of_ne (t : FileTree) {k l : Location} (h : k ≠ l) :
    (t.erase l).lookup k = t.lookup k := by
  simp only [lookup, erase]
  induction t.entries with
  | nil => rfl
  | cons e es ih =>
    by_cases hl : e.1 = l
    · simp only [List.filter_cons, hl, ne_eq, not_true_eq_false, decide_false, Bool.false_eq_true,
        if_false, ih]
      rw [List.lookup_cons, hl, beq_false_of_ne h]
    · simp only [List.filter_cons, ne_eq, hl, not_false_eq_true, decide_true, if_true]
      rw [List.lookup_cons, List.lookup_cons, ih]

@[simp]
theorem lookup_put_self (t : FileTree) (l : Location) (n : Node) :
    (t.put l n).lookup l = some n := by
  simp [lookup, put]

theorem lookup_put_of_ne (t : FileTree) {k l : Location} (h : k ≠ l) (n : Node) :
    (t.put l n).lookup k = t.lookup k := by
  rw [← lookup_erase_of_ne t h]
  simp only [lookup, put]
  rw [List.lookup_cons, beq_false_of_ne h]

/-! ## Removing what was put -/

theorem erase_put (t : FileTree) (l : Location) (n : Node) : (t.put l n).erase l = t.erase l := by
  simp [erase, put, List.filter_filter]

/-- Nothing has to go from a free location. -/
theorem erase_eq_self {t : FileTree} {l : Location} (h : t.lookup l = none) : t.erase l = t := by
  have kept : t.entries.filter (·.1 ≠ l) = t.entries := by
    refine List.filter_eq_self.2 fun e he => decide_eq_true fun hl => ?_
    simpa [hl] using (List.lookup_eq_none_iff.1 h) e he
  exact congrArg (fun es => { t with entries := es }) kept

end FileTree

end ExportSurface
