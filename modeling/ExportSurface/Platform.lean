import ExportSurface.Text.Basic

/-!
# Platforms

The object file family of a library decides which listing is asked for, what its blocks are called
and what a snapshot says about where it applies.
-/

namespace ExportSurface

/-- The object formats whose exported symbols are inspected. -/
inductive Platform where
  /-- Shared objects, read from their symbol table. -/
  | elf
  /-- Dynamic-link libraries, read from their export table. -/
  | coff
  deriving DecidableEq, Repr, Inhabited

namespace Platform

/-- The platform that the program itself inspects. -/
def host : Platform := elf

/-- The short name of the platform. -/
def name : Platform → Text
  | elf => "elf".toList
  | coff => "coff".toList

/-- The option that makes the listing tool print the symbols that matter. -/
def listingOption : Platform → Text
  | elf => "--syms".toList
  | coff => "--coff-exports".toList

/-- The word that opens each block of the listing. -/
def marker : Platform → Text
  | elf => "Symbol".toList
  | coff => "Export".toList

/-- The feature a test run needs for a snapshot of this platform. -/
def feature : Platform → Text
  | elf => "linux".toList
  | coff => "windows".toList

/-- The placeholder of the directory that holds the libraries in a test run. -/
def libraryDirectory : Platform → Text
  | elf => "%sycl_libs_dir".toList
  | coff => "%llvm_build_bin_dir".toList

end Platform

end ExportSurface
