import ExportSurface.Comparison.Basic
import ExportSurface.Filter
import ExportSurface.Listing.Record
import ExportSurface.Snapshot.Store
import ExportSurface.Tool.Source

/-!
# Inspections

An inspection asks a source for the listing of a library and filters its records. It either stops at
the exported names, or writes them to a snapshot, or compares them with one. Faults come in a fixed
order: an option that is missing, then the reference, then the source, and writing last.

Each inspection gives an `Outcome`, which says besides the answer what became of the files and which
libraries the source was asked for.
-/

namespace ExportSurface

/-- The exported names that a raw listing holds. -/
def ExportFilter.extract (f : ExportFilter) (raw : Text) : SymbolSet :=
  f.apply (Listing.records f.platform raw)

/-- What comes of an inspection. -/
structure Outcome (α : Type) where
  answer : Except Failure α
  /-- The files afterwards. -/
  files : FileTree
  /-- The libraries whose listings the source was asked for, in order. -/
  asked : List Path

/-- The result of a check. -/
inductive Verdict where
  | compatible
  | diverged (comparison : Comparison)
  deriving DecidableEq

namespace Verdict

/-- Whether the library agrees with its reference. -/
def isCompatible : Verdict → Bool
  | compatible => true
  | diverged _ => false

/-- How the library differs from its reference: not at all, or as the comparison says. -/
def comparison : Verdict → Comparison
  | compatible => ⟨∅, ∅⟩
  | diverged c => c

/-- The verdict on a comparison. -/
def ofComparison (c : Comparison) : Verdict := if c.isCompatible then compatible else diverged c

end Verdict

/-- A source of listings and the filter for what they hold. -/
structure Inspector where
  source : Source
  filter : ExportFilter

namespace Inspector

/-- The exported names of a library. -/
def extract (i : Inspector) (t : FileTree) (target : Path) : Outcome SymbolSet :=
  match i.source t target with
  | (.ok raw, t) => ⟨.ok (i.filter.extract raw), t, [target]⟩
  | (.error e, t) => ⟨.error e, t, [target]⟩

/-- The text of the snapshot of a library with the given exported names. -/
def snapshotOf (i : Inspector) (target : Path) (symbols : SymbolSet) : Text :=
  Snapshot.encode symbols (.ofTarget target i.filter.platform)

/-- Writes the exported names of a library to a snapshot. -/
def dump (i : Inspector) (t : FileTree) (target : Path) (output : Option Path)
    (refusals : FileTree.Refusals := {}) : Outcome SymbolSet :=
  match output with
  | none => ⟨.error (.optionMissing .dump), t, []⟩
  | some output =>
    match i.extract t target with
    | ⟨.error e, t, asked⟩ => ⟨.error e, t, asked⟩
    | ⟨.ok symbols, t, asked⟩ =>
      match Snapshot.write t output (i.snapshotOf target symbols) refusals with
      | (.ok (), t) => ⟨.ok symbols, t, asked⟩
      | (.error e, t) => ⟨.error e, t, asked⟩

/-- Compares the exported names of a library with a reference snapshot. -/
def check (i : Inspector) (t : FileTree) (reference : Option Path) (target : Path) :
    Outcome Verdict :=
  match reference with
  | none => ⟨.error (.optionMissing .check), t, []⟩
  | some reference =>
    match Snapshot.read t reference with
    | .error e => ⟨.error e, t, []⟩
    | .ok expected =>
      match i.extract t target with
      | ⟨.error e, t, asked⟩ => ⟨.error e, t, asked⟩
      | ⟨.ok current, t, asked⟩ =>
        ⟨.ok (.ofComparison (.between expected current)), t, asked⟩

end Inspector

end ExportSurface
