import ExportSurface.Inspection
import ExportSurface.Proofs.Tool.Ending
import ExportSurface.Proofs.Tool.Playback
import ExportSurface.Proofs.Tool.Running
import ExportSurface.Proofs.Tool.Searching

/-!
# Playing recorded tools

A recorded tool prints what was recorded and ends as it was recorded, whatever its arguments are and
however often it is launched. All that it changes is the file where it writes its arguments down.

* `Recording.Playable r script t`: the recording and the programs that play it are in their places.
* `Recording.launch_of_playable`: what a launch gives, wherever the search path finds the script.
* `Recording.Ready`: the arguments may be written down, and not over the recording. A launch
  preserves this (`Recording.Ready.exists_launch`), and so does any number of launches
  (`Recording.Ready.exists_launches`).
* `Recording.Ready.exists_check`: a check that runs such a tool answers as the recorded listing asks
  for.
-/

namespace ExportSurface.Recording

open Shell

/-- The recording and the programs that play it are in their places. -/
structure Playable (r : Recording) (script : Path) (t : FileTree) : Prop where
  program : t.programContent script = .ok (Utf8.encode r.script)
  isReadable : t.readBytes script = .ok (Utf8.encode r.script)
  output : t.readBytes (script.beside ".out") = .ok r.output
  complaint : t.readBytes (script.beside ".err") = .ok r.complaint
  shell : t.programContent (.ofBytes "/bin/sh".toList) = .ok (Binary.content Process.shellName)
  cat : HasCat t

variable {r : Recording} {script tool : Path} {t t' : FileTree} {arguments : List Bytes}
  {status : ExitStatus}

/-! ## The tokens of the script -/

theorem script_eq (r : Recording) :
    r.script = playback.flatMap (· ++ ['\n']) ++ (r.ending.text ++ ['\n']) := by
  simp [Recording.script]

theorem isAscii_script (h : r.ending.status? = some status) : r.script.IsAscii := by
  rw [script_eq, Text.isAscii_append, Text.isAscii_append]
  exact ⟨by decide +kernel, RecordedEnd.isAscii_text h, by decide⟩

theorem tokens_script (h : r.ending.status? = some status) :
    tokens r.script = ⟨2, .newline⟩ :: (lineOf 2 argumentsLine ++ (lineOf 3 outputLine ++
      (lineOf 4 complaintLine ++ (lineOf 5 r.ending.line ++ [⟨6, .endOfScript⟩])))) := by
  let lines := lineOf 2 argumentsLine ++ lineOf 3 outputLine ++ lineOf 4 complaintLine
  have hrun : Tokenizer.run {} r.script =
      (⟨2, .newline⟩ :: lines ++ lineOf 5 r.ending.line, { line := 6 }) := by
    rw [script_eq, Tokenizer.run_append, run_playback, RecordedEnd.run_text h]
  have hlines : HasNoDocument lines :=
    ((hasNoDocument_lineOf 2 argumentsLine).append (hasNoDocument_lineOf 3 outputLine)).append
      (hasNoDocument_lineOf 4 complaintLine)
  have hall : HasNoDocument
      (⟨2, .newline⟩ :: lines ++ lineOf 5 r.ending.line ++ [⟨6, .endOfScript⟩]) := by
    have hnewline : HasNoDocument [⟨2, .newline⟩] := by simp [HasNoDocument]
    have hend : HasNoDocument [⟨6, .endOfScript⟩] := by simp [HasNoDocument]
    exact ((hnewline.append hlines).append (hasNoDocument_lineOf 5 r.ending.line)).append hend
  have hend : Tokenizer.finish { line := 6 } = [⟨6, .endOfScript⟩] := rfl
  simp only [tokens, hrun, hend]
  rw [documents_eq_nil hall, placeDocuments_nil hall]
  simp [lines]

/-! ## The run of the script -/

section

variable {s : State} {n : Nat}

theorem zero_not_mem_script (h : r.ending.status? = some status) : '\x00' ∉ r.script := by
  rw [script_eq, List.mem_append, List.mem_append, not_or, not_or]
  exact ⟨by decide +kernel, RecordedEnd.zero_not_mem_text h, by decide⟩

theorem runText_script (run : Runner) (m : Machine) (h : r.ending.status? = some status) :
    ∃ k, runText run (Bytes.characters (Utf8.encode r.script)) m =
      runTokens run r.script (k + 6) 1 (tokens r.script) m := by
  have hfilter : r.script.filter (· ≠ '\x00') = r.script := List.filter_eq_self.2 fun c hc => by
    have : c ≠ '\x00' := fun h' => zero_not_mem_script h (h' ▸ hc)
    simpa using this
  obtain ⟨k, hk⟩ : ∃ k, (tokens r.script).length + 1 = k + 6 := by
    refine ⟨(tokens r.script).length - 5, ?_⟩
    rw [tokens_script h]
    simp only [lineOf, List.length_cons, List.length_append, List.length_nil]
    omega
  refine ⟨k, ?_⟩
  rw [Bytes.characters_encode (isAscii_script h), runText, hfilter, hk]

/-- What the script leaves if the arguments can be written down. -/
theorem finish_script {j : Nat} {run : Runner}
    (hrun : run = runner (Process.executeIn (n + 1)) (j + 1))
    (hs : Between script arguments s) (hending : r.ending.status? = some status)
    (hwrite : t.write (script.beside ".args") (noted arguments) = .ok t')
    (h : r.Playable script t') :
    ∃ m : Machine, (m.world.files = t' ∧ m.world.buffers = [r.output, r.complaint]) ∧
      finish run (runText run (Bytes.characters (Utf8.encode r.script)))
        ⟨s, ⟨t, openFiles, [[], []]⟩⟩ = (.ok status, m) := by
  subst hrun
  obtain ⟨k, hk⟩ := runText_script (runner (Process.executeIn (n + 1)) (j + 1))
    ⟨s, ⟨t, openFiles, [[], []]⟩⟩ hending
  rw [tokens_script hending] at hk
  obtain ⟨s', f, hs', hreaches⟩ := exists_reaches (n := n) (j := j) hs hwrite h.cat h.output
    h.complaint (lineOf 5 r.ending.line ++ [⟨6, .endOfScript⟩])
  obtain ⟨next, hnext⟩ := hreaches (k + 2) 1
  obtain ⟨m, hm, hfinish⟩ := RecordedEnd.finish_line hs'.toIsPlain hs'.isApart_eq hending
  refine ⟨m, ?_, (finish_congr (hk.trans hnext)).trans hfinish⟩
  simp [hm]

end

/-! ## One launch -/

/-- The text of the name of a script starts like the name. -/
def IsScriptName (script : Path) : Prop :=
  (Bytes.characters script.bytes).head? ≠ some '-' ∧
    (Bytes.characters script.bytes).head? ≠ some '+'

theorem exists_encode_script (r : Recording) : ∃ rest, Utf8.encode r.script =
    Utf8.encode "#!".toList ++ (Text.bytes "/bin/sh".toList ++ '\n'.toUInt8 :: rest) := by
  let rest : Text := (playback.tail ++ [r.ending.text]).flatMap (· ++ ['\n'])
  have hscript : r.script = "#!/bin/sh\n".toList ++ rest := rfl
  refine ⟨Utf8.encode rest, ?_⟩
  rw [hscript, Utf8.encode, List.flatMap_append]
  rfl

/-- The shell gets the script by its path, and the arguments behind it. -/
theorem load_script (words : List Text) (h : r.Playable script t) :
    t.load FileTree.scriptLimit script words = .ok (Process.shellName,
      ["/bin/sh".toList, Bytes.characters script.bytes] ++ words.tail) := by
  obtain ⟨rest, hrest⟩ := exists_encode_script r
  have hline : InterpreterLine.of? (Utf8.encode r.script) =
      some ⟨.ofBytes "/bin/sh".toList, none⟩ := by
    rw [hrest]
    exact InterpreterLine.of?_of_line
      ⟨by decide, List.forall_iff_forall_mem.1 (by decide), by decide⟩ rest
  have hname : Binary.name? (Utf8.encode r.script) = none := by
    rw [hrest]
    rfl
  refine (FileTree.load_of_script (n := 5) h.program hname hline).trans ?_
  exact FileTree.load_of_binary (n := 4) h.shell rfl

theorem startAt_of_playable (environment : List (Text × Text)) (h : r.Playable script t)
    (hending : r.ending.status? = some status) (hname : IsScriptName script)
    (hshort : ∀ b ∈ tool.bytes :: arguments, b.length < Process.wordLimit)
    (hwrite : t.write (script.beside ".args") (noted arguments) = .ok t')
    (h' : r.Playable script t') :
    ∃ w, (w.files = t' ∧ w.buffers = [r.output, r.complaint]) ∧
      SearchPath.startAt environment t tool arguments script = .ok (status, w) := by
  obtain ⟨n, hn⟩ := Process.exists_execute_eq
  have hload := load_script ((tool.bytes :: arguments).map Bytes.characters) h
  have hwords : ∀ t ∈ (tool.bytes :: arguments).map Bytes.characters,
      t.length < Process.wordLimit := by
    intro t ht
    obtain ⟨b, hb, rfl⟩ := List.mem_map.1 ht
    simpa [Bytes.characters] using hshort b hb
  have hexecute := Process.executeIn_of_load (n := n + 1) (w := ⟨t, openFiles, [[], []]⟩)
    (p := ⟨(tool.bytes :: arguments).map Bytes.characters, descriptors, environment⟩)
    h.program hwords hload
  have hpath : Path.ofBytes (Bytes.characters script.bytes) = script := by simp [Path.ofBytes]
  obtain ⟨w, hw, hmain⟩ : ∃ w, (w.files = t' ∧ w.buffers = [r.output, r.complaint]) ∧
      main (Process.executeIn (n + 1)) ⟨"/bin/sh".toList :: Bytes.characters script.bytes ::
        arguments.map Bytes.characters, descriptors, environment⟩ ⟨t, openFiles, [[], []]⟩ =
        (status, w) :=
    main_of_finish rfl hname.1 hname.2 (hpath.symm ▸ h.isReadable)
      fun j => finish_script rfl ⟨⟨rfl, rfl, rfl, rfl⟩, rfl, rfl, rfl, rfl⟩ hending hwrite h'
  refine ⟨w, hw, ?_⟩
  rw [SearchPath.startAt, hn]
  exact hexecute.trans (congrArg Except.ok hmain)

/-- **Playing a recording.** Wherever the search path finds the script, a launch gives what was
recorded, and all that it changes is what becomes of writing the arguments down. -/
theorem launch_of_playable {environment : List (Text × Text)} {before after : List Path}
    (h : r.Playable script t) (hending : r.ending.status? = some status)
    (hname : IsScriptName script)
    (hsearched : SearchPath.searched environment tool = before ++ script :: after)
    (hbefore : ∀ q ∈ before, ∃ e, t.programContent q = .error e ∧ SearchPath.IsPassedOver e)
    (hshort : ∀ b ∈ tool.bytes :: arguments, b.length < Process.wordLimit)
    (hwrite : t.write (script.beside ".args") (noted arguments) = .ok t')
    (h' : r.Playable script t') :
    SearchPath.launch environment t tool arguments = (.ok ⟨status, r.output, r.complaint⟩, t') := by
  obtain ⟨w, ⟨hfiles, hbuffers⟩, hstart⟩ := startAt_of_playable environment h hending hname
    hshort hwrite h'
  rw [SearchPath.launch_of_found hsearched hbefore hstart, hfiles, hbuffers]
  rfl

/-! ## Any number of launches -/

/-- What a recorded tool needs: the recording, the programs that play it, and a place `l` for the
arguments, where nothing of all that stands. -/
structure Ready (r : Recording) (script : Path) (l : Location) (t : FileTree) : Prop
    extends r.Playable script t where
  rewritable : t.Rewritable (script.beside ".args") l
  script_leadsOff : t.LeadsOff script l
  output_leadsOff : t.LeadsOff (script.beside ".out") l
  complaint_leadsOff : t.LeadsOff (script.beside ".err") l
  shell_leadsOff : t.LeadsOff (.ofBytes "/bin/sh".toList) l
  cat_leadsOff : t.LeadsOff (.ofBytes "/bin/cat".toList) l

/-- Launches a tool with one list of arguments after the other. -/
def launches (environment : List (Text × Text)) (tool : Path) (t : FileTree) :
    List (List Bytes) → List (Except SystemError ToolRun) × FileTree
  | [] => ([], t)
  | arguments :: calls =>
    let (run, t) := SearchPath.launch environment t tool arguments
    let (runs, t) := launches environment tool t calls
    (run :: runs, t)

variable {l : Location}

/-- What is ready stays so while nothing but the arguments is written. -/
theorem Ready.congr (h : r.Ready script l t) (hagree : t.AgreesOff l t')
    (hrewritable : t'.Rewritable (script.beside ".args") l) : r.Ready script l t' := by
  have hl := h.rewritable.isDeadEnd
  exact {
    program := (FileTree.programContent_congr hagree hl h.script_leadsOff).trans h.program
    isReadable := (FileTree.readBytes_congr hagree hl h.script_leadsOff).trans h.isReadable
    output := (FileTree.readBytes_congr hagree hl h.output_leadsOff).trans h.output
    complaint := (FileTree.readBytes_congr hagree hl h.complaint_leadsOff).trans h.complaint
    shell := (FileTree.programContent_congr hagree hl h.shell_leadsOff).trans h.shell
    cat := (FileTree.programContent_congr hagree hl h.cat_leadsOff).trans h.cat
    rewritable := hrewritable
    script_leadsOff := h.script_leadsOff.congr hagree hl
    output_leadsOff := h.output_leadsOff.congr hagree hl
    complaint_leadsOff := h.complaint_leadsOff.congr hagree hl
    shell_leadsOff := h.shell_leadsOff.congr hagree hl
    cat_leadsOff := h.cat_leadsOff.congr hagree hl }

/-- A run that printed a word and failed. -/
def rehearsal : Recording := ⟨Text.bytes "libsycl".toList, [], .exit 3⟩

/-- The usual programs, and a recorded tool in the directory where everyone may write. -/
def rehearsalHost : FileTree :=
  let t : FileTree :=
    { entries := [], workingDirectory := [], withheld := ⟨0o022⟩, property := [] }
  (install (Host.furnish t) (.ofText "/tmp".toList) rehearsal).2

/-- A tool that was just put into a directory of such a host is ready. -/
example : rehearsal.Ready (.ofText "/tmp/llvm-readobj".toList)
    [Utf8.encode "llvm-readobj.args".toList, Utf8.encode "tmp".toList] rehearsalHost where
  program := by decide +kernel
  isReadable := by decide +kernel
  output := by decide +kernel
  complaint := by decide +kernel
  shell := by decide +kernel
  cat := by
    unfold HasCat
    decide +kernel
  rewritable := by
    apply FileTree.rewritable_of_none
    all_goals decide +kernel
  script_leadsOff := by decide +kernel
  output_leadsOff := by decide +kernel
  complaint_leadsOff := by decide +kernel
  shell_leadsOff := by decide +kernel
  cat_leadsOff := by decide +kernel

section

variable {environment : List (Text × Text)} {after : List Path}
  (hending : r.ending.status? = some status) (hname : IsScriptName script)
  (hsearched : SearchPath.searched environment tool = script :: after)

include hending hname hsearched

/-- **One launch** of a recorded tool that is ready leaves it ready. -/
theorem Ready.exists_launch (h : r.Ready script l t)
    (hshort : ∀ b ∈ tool.bytes :: arguments, b.length < Process.wordLimit) :
    ∃ t', SearchPath.launch environment t tool arguments =
        (.ok ⟨status, r.output, r.complaint⟩, t') ∧
      t.AgreesOff l t' ∧ r.Ready script l t' := by
  obtain ⟨t', hwrite, hagree, hrewritable⟩ := h.rewritable.exists_write (noted arguments)
  have h' := h.congr hagree hrewritable
  have hfirst : SearchPath.searched environment tool = [] ++ script :: after := hsearched
  have hlaunch := launch_of_playable h.toPlayable hending hname hfirst (by simp) hshort hwrite
    h'.toPlayable
  exact ⟨t', hlaunch, hagree, h'⟩

/-- **Any number of launches** of a recorded tool that is ready give what was recorded, and leave it
ready. -/
theorem Ready.exists_launches (h : r.Ready script l t) {calls : List (List Bytes)}
    (hshort : ∀ arguments ∈ calls, ∀ b ∈ tool.bytes :: arguments, b.length < Process.wordLimit) :
    ∃ t', launches environment tool t calls =
        (List.replicate calls.length (.ok ⟨status, r.output, r.complaint⟩), t') ∧
      t.AgreesOff l t' ∧ r.Ready script l t' := by
  induction calls generalizing t with
  | nil => exact ⟨t, rfl, .refl l t, h⟩
  | cons arguments calls ih =>
    obtain ⟨t₁, hlaunch, hagree₁, h₁⟩ := h.exists_launch hending hname hsearched
      (hshort arguments (by simp))
    obtain ⟨t', hlaunches, hagree, h'⟩ := ih h₁ fun a ha => hshort a (by simp [ha])
    refine ⟨t', ?_, hagree₁.trans hagree, h'⟩
    simp only [launches, hlaunch, hlaunches, List.length_cons, List.replicate_succ]

/-! ## Inspections -/

/-- The source of a recorded tool always gives what was recorded. -/
theorem Ready.exists_ofTool (h : r.Ready script l t) (platform : Platform) {target : Path}
    (hzero : ¬(0 ∈ tool.bytes ∨ 0 ∈ target.bytes))
    (hshort : tool.bytes.length < Process.wordLimit ∧ target.bytes.length < Process.wordLimit) :
    ∃ t', Source.ofTool (SearchPath.launch environment) tool platform t target =
        (ToolRun.listing tool ⟨status, r.output, r.complaint⟩, t') ∧
      t.AgreesOff l t' ∧ r.Ready script l t' := by
  have hoption : (Utf8.encode platform.listingOption).length < Process.wordLimit := by
    cases platform <;> decide
  have hwords : ∀ b ∈ tool.bytes :: Source.toolArguments platform target,
      b.length < Process.wordLimit := by
    simpa [Source.toolArguments] using ⟨hshort.1, hoption, hshort.2⟩
  obtain ⟨t', hlaunch, hagree, hready⟩ := h.exists_launch hending hname hsearched hwords
  exact ⟨t', Source.ofTool_of_run hzero hlaunch, hagree, hready⟩

/-- **A check that runs a recorded tool** answers as one with the recorded listing does, and leaves the
tool ready. -/
theorem Ready.exists_check (h : r.Ready script l t) {f : ExportFilter} {reference : Option Path}
    {target : Path} (hzero : ¬(0 ∈ tool.bytes ∨ 0 ∈ target.bytes))
    (hshort : tool.bytes.length < Process.wordLimit ∧ target.bytes.length < Process.wordLimit) :
    ∃ t', Inspector.check ⟨.ofTool (SearchPath.launch environment) tool f.platform, f⟩ t reference
          target =
        { Inspector.check ⟨.fixed (ToolRun.listing tool ⟨status, r.output, r.complaint⟩), f⟩ t
            reference target with files := t' } ∧
      t.AgreesOff l t' ∧ r.Ready script l t' := by
  obtain ⟨t', hsource, hagree, hready⟩ := h.exists_ofTool hending hname hsearched f.platform
    hzero hshort
  cases reference with
  | none => exact ⟨t, rfl, .refl l t, h⟩
  | some reference =>
    cases hread : Snapshot.read t reference with
    | error e =>
      refine ⟨t, ?_, .refl l t, h⟩
      simp only [Inspector.check, hread]
    | ok expected =>
      refine ⟨t', ?_, hagree, hready⟩
      simp only [Inspector.check, hread, Inspector.extract, hsource, Source.fixed]
      cases ToolRun.listing tool ⟨status, r.output, r.complaint⟩ <;> rfl

end

end ExportSurface.Recording
