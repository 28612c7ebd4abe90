import ExportSurface.Path
import ExportSurface.Platform

/-!
# Snapshot headers

A snapshot opens with comment lines that say what made it, how to check a library against it and
where it applies. Each line of a header is empty or starts with the comment mark, unless the name
of the library has line feeds in it.
-/

namespace ExportSurface

/-- The character that starts a comment line. -/
def commentMark : Char := '#'

/-- What the header of a snapshot says. -/
structure SnapshotHeader where
  /-- The name of the inspected library, without its directory. -/
  targetName : Text
  platform : Platform
  deriving DecidableEq, Repr

namespace SnapshotHeader

/-- The header for a library. A path that names no entry stands for itself. -/
def ofTarget (target : Path) (platform : Platform) : SnapshotHeader :=
  { targetName := (target.fileName?.map Utf8.decodeLossy).getD target.display
    platform }

/-- The line that frames the first comment. -/
def banner : Text := List.replicate 80 commentMark

/-- The lines of the header before the one that names the library. -/
def opening : List Text :=
  [banner,
    "# This file is automatically generated by abi-check.".toList,
    "# DO NOT EDIT IT MANUALLY. Regenerate it with `abi-check --mode dump_symbols`.".toList,
    banner,
    []]

/-- The line that says how to check a library against the snapshot. -/
def runLine (h : SnapshotHeader) : Text :=
  "# RUN: env LLVM_BIN_PATH=%llvm_build_bin_dir abi-check --mode check_symbols ".toList ++
    "--reference %s ".toList ++
  h.platform.libraryDirectory ++ ['/'] ++ h.targetName

/-- The lines of the header behind the one that names the library. -/
def closing (p : Platform) : List Text :=
  ["# REQUIRES: ".toList ++ p.feature, "# UNSUPPORTED: libcxx".toList, []]

/-- All lines of the header. -/
def lines (h : SnapshotHeader) : List Text := opening ++ [h.runLine] ++ closing h.platform

/-- The text of the header, each line ended by a line feed. -/
def render (h : SnapshotHeader) : Text := h.lines.flatMap (· ++ ['\n'])

end SnapshotHeader

end ExportSurface
