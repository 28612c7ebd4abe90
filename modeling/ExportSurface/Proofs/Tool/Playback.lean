import ExportSurface.Proofs.Shell.Running
import ExportSurface.Proofs.Text.Ascii
import ExportSurface.Tool.Recording
import ExportSurface.Tool.SearchPath

/-!
# The script of a recorded tool

The script of a recorded tool is run line by line. What is known of the shell between two lines is
`Recording.Between`; each line preserves it and changes the world in one way.

* `Recording.run_playback`: the tokens of the lines.
* `Recording.step_argumentsLine`, `Recording.step_outputLine` and `Recording.step_complaintLine`: the
  lines that write the arguments down and print what was recorded.
* `Recording.exists_reaches`: all of them, one after the other.
-/

namespace ExportSurface

open Shell

/-! ## Lines of words -/

namespace Shell.Printing

/-- The format that prints each word in a line of its own. -/
def lineFormat : Text := "%s\\n".toList

theorem follow_lineFormat (words : List Text) :
    follow lineFormat.length lineFormat words = .ok (words.headD [] ++ ['\n'], words.tail) := by
  cases words <;> rfl

theorem rounds_lineFormat {n : Nat} (words : List Text) (hn : words.length < n) :
    rounds lineFormat n words =
      .ok ((if words.isEmpty then [[]] else words).flatMap (· ++ ['\n'])) := by
  induction n generalizing words with
  | zero => omega
  | succ n ih =>
    match words with
    | [] => simp [rounds, follow_lineFormat, bind, Except.bind, pure, Except.pure]
    | [word] => simp [rounds, follow_lineFormat, bind, Except.bind, pure, Except.pure]
    | word :: next :: words =>
      have hrest := ih (next :: words) (by simpa using hn)
      simp [rounds, follow_lineFormat, hrest, bind, Except.bind, pure, Except.pure]

/-- A line is printed for each word, or an empty one if there is none. -/
theorem formatted_lineFormat (words : List Text) :
    formatted lineFormat words =
      .ok ((if words.isEmpty then [[]] else words).flatMap (· ++ ['\n'])) :=
  rounds_lineFormat words (Nat.lt_succ_self _)

end Shell.Printing

namespace Recording

/-! ## The lines of the script -/

/-- The line that writes the arguments down. -/
def argumentsLine : List Parser.Written :=
  [.inl (bareWord "printf".toList), .inl (.quotation :: Printing.lineFormat.map (.char · true)),
    .inl [.quotation, .parameter ['@'] true], .inr (1, ['>'], Expansion.besideWord ".args".toList)]

/-- The line that prints the output. -/
def outputLine : List Parser.Written :=
  [.inl (bareWord "/bin/cat".toList), .inl (Expansion.besideWord ".out".toList)]

/-- The line that prints the complaint. -/
def complaintLine : List Parser.Written :=
  [.inl (bareWord "/bin/cat".toList), .inl (Expansion.besideWord ".err".toList),
    .inr (1, ['>', '&'], bareWord ['2'])]

theorem run_playback : Tokenizer.run {} (playback.flatMap (· ++ ['\n'])) =
    (⟨2, .newline⟩ :: (lineOf 2 argumentsLine ++ lineOf 3 outputLine ++ lineOf 4 complaintLine),
      { line := 5 }) := by
  decide +kernel

/-! ## The world of the script -/

/-- The open files that a tool is launched with. -/
def openFiles : List OpenFile := (SearchPath.startingWorld default).1.opened

/-- The descriptors that a tool is launched with. -/
def descriptors : Descriptors := (SearchPath.startingWorld default).2

/-- What a tool prints on its standard output is kept, and so is what it complains of. -/
theorem writeTo_openFiles {ds : Descriptors} {t : FileTree} {more : List OpenFile}
    {output complaint b : Bytes} {d : Nat} :
    (ds.lookup d = some 2 →
      World.writeTo ⟨t, openFiles ++ more, [output, complaint]⟩ ds d b =
        .ok ⟨t, openFiles ++ more, [output ++ b, complaint]⟩) ∧
    (ds.lookup d = some 4 →
      World.writeTo ⟨t, openFiles ++ more, [output, complaint]⟩ ds d b =
        .ok ⟨t, openFiles ++ more, [output, complaint ++ b]⟩) :=
  ⟨fun h => World.writeTo_of_buffer h (f := { channel := .buffer 0, isWritable := true })
      rfl rfl rfl,
    fun h => World.writeTo_of_buffer h (f := { channel := .buffer 1, isWritable := true })
      rfl rfl rfl⟩

/-- The shell between two lines of a script that was launched with arguments. -/
structure Between (script : Path) (arguments : List Bytes) (s : State) : Prop
    extends s.IsPlain where
  name_eq : s.name = Bytes.characters script.bytes
  parameters_eq : s.parameters = arguments.map Bytes.characters
  descriptors_eq : s.descriptors = descriptors
  isApart_eq : s.isApart = false

variable {script : Path} {arguments : List Bytes} {s : State}

theorem Between.next (h : Between script arguments s) (line n : Nat) :
    Between script arguments ((s.atLine line).withStatus n) :=
  { h with }

theorem ofBytes_beside (script : Path) {ending : String} (h : Text.IsAscii ending.toList) :
    Path.ofBytes (Bytes.characters script.bytes ++ ending.toList) = script.beside ending := by
  simp [Path.ofBytes, Path.beside, Text.bytes_eq_encode h]

theorem bytes_flatMap_lines (ws : List Bytes) :
    Text.bytes ((ws.map Bytes.characters).flatMap (· ++ ['\n'])) =
      ws.flatMap (· ++ ['\n'.toUInt8]) := by
  induction ws with
  | nil => rfl
  | cons w ws ih =>
    have hend (t : Text) : Text.bytes ('\n' :: t) = '\n'.toUInt8 :: t.bytes := rfl
    simp [hend, ih]

/-- What a recorded tool writes down of its arguments. -/
def noted (arguments : List Bytes) : Bytes :=
  (if arguments.isEmpty then [[]] else arguments).flatMap (· ++ ['\n'.toUInt8])

theorem exists_formatted (arguments : List Bytes) : ∃ t : Text, t ≠ [] ∧ t.bytes = noted arguments ∧
    Printing.formatted Printing.lineFormat (arguments.map Bytes.characters) = .ok t := by
  refine ⟨_, ?_, ?_, Printing.formatted_lineFormat _⟩
  · cases arguments <;> simp
  · cases arguments with
    | nil => rfl
    | cons a arguments => exact bytes_flatMap_lines (a :: arguments)

/-! ## Running the lines -/

section

variable {run : Runner} {t t' : FileTree} {output complaint : Bytes}

theorem prepare_argumentsLine (m : Machine) :
    prepare run [bareWord "printf".toList, .quotation :: Printing.lineFormat.map (.char · true),
        [.quotation, .parameter ['@'] true]]
        [.file 1 .writing (Expansion.besideWord ".args".toList)] m =
      (.ok { words := "printf".toList :: Printing.lineFormat :: m.shell.parameters
             targets := [.file 1 .writing (m.shell.name ++ ".args".toList)] }, m) := by
  have htarget : Expansion.target (takeOutput run)
      (.file 1 .writing (Expansion.besideWord ".args".toList)) m =
      (.ok (.file 1 .writing (m.shell.name ++ ".args".toList)), m) := by
    simp only [Expansion.target, Action.bind_apply, Expansion.single_besideWord, Action.pure_apply]
  exact prepare_of_forall₂ [["printf".toList], [Printing.lineFormat], m.shell.parameters] rfl
    (.cons (Expansion.fields_bareWord (by decide)) (.cons (Expansion.fields_quoted _)
      (.cons Expansion.fields_parameters .nil))) (.cons htarget .nil) (by simp)

theorem step_argumentsLine (run : Runner) (execute : Executor) (h : Between script arguments s)
    (hwrite : t.write (script.beside ".args") (noted arguments) = .ok t') :
    ∃ f, step run execute false (Parser.commandOf 2 argumentsLine) ⟨s, ⟨t, openFiles, [[], []]⟩⟩ =
      (.ok (), ⟨(s.atLine 2).withStatus 0, ⟨t', openFiles ++ [f], [[], []]⟩⟩) := by
  have hpath : Path.ofBytes (s.name ++ ".args".toList) = script.beside ".args" := by
    rw [h.name_eq]
    exact ofBytes_beside script (by decide)
  obtain ⟨w₁, f, hopen, hwritten⟩ :=
    World.write_of_openWriting (w := ⟨t, openFiles, [[], []]⟩) hwrite
  obtain ⟨text, hne, hbytes, hformat⟩ := exists_formatted arguments
  rw [← hbytes] at hwritten
  rw [← h.parameters_eq] at hformat
  refine ⟨f, simple_of_invoke h.toIsPlain rfl (prepare_argumentsLine _)
    (Action.follow_of_openFile (hpath ▸ hopen)) (show "printf".toList ≠ "exec".toList by decide) ?_⟩
  rw [invoke_of_builtin h.functions_eq rfl]
  refine perform_of_ok (printf_of_print hformat (Action.print_of_writeTo hne ?_))
  exact hwritten

/-- The program that prints what was recorded is in its place. -/
def HasCat (t : FileTree) : Prop :=
  t.programContent (.ofBytes "/bin/cat".toList) = .ok (Binary.content "cat".toList)

theorem executeIn_cat {n : Nat} {ending : String} {content : Bytes} {w w' : World}
    {ds : Descriptors} {environment : List (Text × Text)}
    (hending : Text.IsAscii ending.toList ∧ 2 < ending.length)
    (hcat : HasCat w.files) (hfile : w.files.readBytes (script.beside ending) = .ok content)
    (hwrite : w.writeTo ds Process.standardOutput content = .ok w') :
    Process.executeIn (n + 1) (.ofBytes "/bin/cat".toList)
      ⟨["/bin/cat".toList, Bytes.characters script.bytes ++ ending.toList], ds, environment⟩ w =
      .ok (.exited 0, w') := by
  have hpath := ofBytes_beside script hending.1
  have hlength : (Bytes.characters script.bytes ++ ending.toList).length < FileTree.pathLimit := by
    have := FileTree.length_lt_of_readBytes hfile
    rw [← hpath] at this
    simpa [Path.ofBytes, Text.bytes] using this
  have hlong : 2 < (Bytes.characters script.bytes ++ ending.toList).length := by
    have : ending.toList.length = ending.length := String.length_toList
    simp only [List.length_append]
    omega
  have hload : w.files.load FileTree.scriptLimit (.ofBytes "/bin/cat".toList)
      ["/bin/cat".toList, Bytes.characters script.bytes ++ ending.toList] = .ok ("cat".toList, _) :=
    FileTree.load_of_binary (n := 5) hcat rfl
  rw [Process.executeIn_of_load hcat ?_ hload]
  · refine congrArg Except.ok (Utility.cat_of_readBytes
      (p := ⟨["/bin/cat".toList, Bytes.characters script.bytes ++ ending.toList], ds, environment⟩)
      rfl (fun h => ?_) (fun h => ?_) (hpath ▸ hfile) hwrite)
    · simp [h] at hlong
    · simp [h] at hlong
  · intro word hword
    rcases List.mem_cons.1 hword with rfl | hword
    · decide
    · rw [List.mem_singleton.1 hword]
      exact Nat.lt_trans hlength (by decide)

theorem prepare_outputLine (m : Machine) :
    prepare run [bareWord "/bin/cat".toList, Expansion.besideWord ".out".toList] [] m =
      (.ok { words := ["/bin/cat".toList, m.shell.name ++ ".out".toList] }, m) :=
  prepare_of_forall₂ [["/bin/cat".toList], [m.shell.name ++ ".out".toList]] rfl
    (.cons (Expansion.fields_bareWord (by decide)) (.cons (Expansion.fields_besideWord _) .nil))
    .nil rfl

theorem step_outputLine (run : Runner) (n : Nat) (more : List OpenFile)
    (h : Between script arguments s) (hcat : HasCat t)
    (houtput : t.readBytes (script.beside ".out") = .ok output) :
    step run (Process.executeIn (n + 1)) false (Parser.commandOf 3 outputLine)
        ⟨s, ⟨t, openFiles ++ more, [[], []]⟩⟩ =
      (.ok (), ⟨(s.atLine 3).withStatus 0, ⟨t, openFiles ++ more, [output, []]⟩⟩) := by
  have hwrite : World.writeTo ⟨t, openFiles ++ more, [[], []]⟩ s.descriptors
      Process.standardOutput output = .ok ⟨t, openFiles ++ more, [output, []]⟩ :=
    writeTo_openFiles.1 (by rw [h.descriptors_eq]; rfl)
  refine simple_of_invoke h.toIsPlain rfl (prepare_outputLine _) Action.follow_nil
    (show "/bin/cat".toList ≠ "exec".toList by decide)
    (invoke_of_program h.functions_eq rfl (by decide) (by decide) ?_)
  have hname : (s.atLine 3).name = Bytes.characters script.bytes := h.name_eq
  rw [hname]
  exact executeIn_cat (by decide) hcat houtput hwrite

theorem prepare_complaintLine (m : Machine) :
    prepare run [bareWord "/bin/cat".toList, Expansion.besideWord ".err".toList]
        [.copy 1 (bareWord ['2'])] m =
      (.ok { words := ["/bin/cat".toList, m.shell.name ++ ".err".toList]
             targets := [.copy 1 ['2']] }, m) :=
  prepare_of_forall₂ [["/bin/cat".toList], [m.shell.name ++ ".err".toList]] rfl
    (.cons (Expansion.fields_bareWord (by decide)) (.cons (Expansion.fields_besideWord _) .nil))
    (.cons rfl .nil) rfl

theorem step_complaintLine (run : Runner) (n : Nat) (more : List OpenFile)
    (h : Between script arguments s) (hcat : HasCat t)
    (hcomplaint : t.readBytes (script.beside ".err") = .ok complaint) :
    step run (Process.executeIn (n + 1)) false (Parser.commandOf 4 complaintLine)
        ⟨s, ⟨t, openFiles ++ more, [output, []]⟩⟩ =
      (.ok (), ⟨(s.atLine 4).withStatus 0, ⟨t, openFiles ++ more, [output, complaint]⟩⟩) := by
  have hsource : Action.source (s.atLine 4).descriptors ['2'] = .ok (some 4) := by
    rw [show (s.atLine 4).descriptors = descriptors from h.descriptors_eq]
    rfl
  have hwrite : World.writeTo ⟨t, openFiles ++ more, [output, []]⟩
      ((1, 4) :: s.descriptors.filter (·.1 ≠ 1)) Process.standardOutput complaint =
      .ok ⟨t, openFiles ++ more, [output, complaint]⟩ := writeTo_openFiles.2 rfl
  refine simple_of_invoke h.toIsPlain rfl (prepare_complaintLine _)
    (Action.follow_of_source hsource) (show "/bin/cat".toList ≠ "exec".toList by decide)
    (invoke_of_program h.functions_eq rfl (by decide) (by decide) ?_)
  have hname : (s.atLine 4).name = Bytes.characters script.bytes := h.name_eq
  rw [hname]
  exact executeIn_cat (by decide) hcat hcomplaint hwrite

/-- **The lines before the last one** write the arguments down and print what was recorded, whatever
follows them. -/
theorem exists_reaches {j n : Nat} {text : Text} (h : Between script arguments s)
    (hwrite : t.write (script.beside ".args") (noted arguments) = .ok t') (hcat : HasCat t')
    (houtput : t'.readBytes (script.beside ".out") = .ok output)
    (hcomplaint : t'.readBytes (script.beside ".err") = .ok complaint) (ts : List Lexeme) :
    ∃ s' f, Between script arguments s' ∧
      Reaches (runner (Process.executeIn (n + 1)) (j + 1)) text 4
        (⟨2, .newline⟩ :: (lineOf 2 argumentsLine ++
          (lineOf 3 outputLine ++ (lineOf 4 complaintLine ++ ts))))
        ⟨s, ⟨t, openFiles, [[], []]⟩⟩ ts ⟨s', ⟨t', openFiles ++ [f], [output, complaint]⟩⟩ := by
  let execute := Process.executeIn (n + 1)
  let run := runner execute (j + 1)
  let ts₄ := lineOf 4 complaintLine ++ ts
  let ts₃ := lineOf 3 outputLine ++ ts₄
  let ts₂ := lineOf 2 argumentsLine ++ ts₃
  have hread₂ : nextCommand? ts₂ = .ok (some (Parser.commandOf 2 argumentsLine), ts₃) :=
    nextCommand?_lineOf 2 rfl _ _
  have hread₃ : nextCommand? ts₃ = .ok (some (Parser.commandOf 3 outputLine), ts₄) :=
    nextCommand?_lineOf 3 rfl _ _
  have hread₄ : nextCommand? ts₄ = .ok (some (Parser.commandOf 4 complaintLine), ts) :=
    nextCommand?_lineOf 4 rfl _ _
  have hempty : Reaches run text 1 (⟨2, .newline⟩ :: ts₂) ⟨s, ⟨t, openFiles, [[], []]⟩⟩ ts₂
      ⟨s, ⟨t, openFiles, [[], []]⟩⟩ := reaches_of_step h.options_eq rfl rfl
  obtain ⟨f, hstep⟩ := step_argumentsLine (runner execute j) execute h hwrite
  have harguments := hempty.trans (reaches_of_step h.options_eq hread₂ hstep)
  have h₂ := h.next 2 0
  have hprinted := harguments.trans (reaches_of_step h₂.options_eq hread₃
    (step_outputLine (runner execute j) n [f] h₂ hcat houtput))
  have h₃ := h₂.next 3 0
  exact ⟨_, f, h₃.next 4 0, hprinted.trans (reaches_of_step h₃.options_eq hread₄
    (step_complaintLine (runner execute j) n [f] h₃ hcat hcomplaint))⟩

end

end Recording

end ExportSurface
