import ExportSurface.IgnoreList.Basic

/-!
# Toolchain artifacts

The symbols that a toolchain may or may not add to a library, whatever the library's sources say.
They are ignored unless the user asks otherwise.
-/

namespace ExportSurface.IgnoreList

/-- Why the start-up functions of the C library are ignored. -/
def startupReason : Text :=
  "removed from crt1.o in glibc 2.34; still present when linking against older glibc ".toList ++
    "(e.g. Ubuntu 20.04 ships 2.31)".toList

/-- Why the plugin objects of the back ends are ignored. -/
def pluginReason : Text :=
  "clang-cl exports the function-local static `Plugin` of the dllexport'ed getPlugin<Backend>() ".toList ++
    "instantiations; headers never reference it".toList

/-- Why the copy and move constructors of the half type are ignored. -/
def halfReason : Text :=
  "MSVC exports the constexpr defaulted copy/move constructors of half although trivially ".toList ++
    "copyable halves are memcpy'ed at use sites".toList

/-- The plugin object of a back end, given by its mangled number. -/
def pluginSymbol (backend : Text) : Text :=
  "?Plugin@?1???$getPlugin@".toList ++ backend ++
    "@pi@detail@_V1@sycl@@YAAEBVplugin@234@XZ@4PEBV5234@EB".toList

/-- The entries for the known toolchain artifacts. -/
def toolchainEntries : List IgnoreEntry :=
  [⟨"_dl_relocate_static_pie".toList,
      "emitted or not depending on whether ld.gold or ld.lld links the library".toList⟩,
    ⟨"__libc_csu_fini".toList, startupReason⟩,
    ⟨"__libc_csu_init".toList, startupReason⟩] ++
  (["$01", "$00", "$04", "$02"].map fun b => ⟨pluginSymbol b.toList, pluginReason⟩) ++
  [⟨"??0half@host_half_impl@detail@_V1@sycl@@QEAA@AEBV01234@@Z".toList, halfReason⟩,
    ⟨"??0half@host_half_impl@detail@_V1@sycl@@QEAA@$$QEAV01234@@Z".toList, halfReason⟩]

/-- The list of the known toolchain artifacts. -/
def toolchain : IgnoreList := ofList toolchainEntries

end ExportSurface.IgnoreList
