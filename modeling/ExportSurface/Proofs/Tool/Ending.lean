import ExportSurface.Proofs.Shell.Running
import ExportSurface.Proofs.Text.Ascii
import ExportSurface.Tool.Recording
import Mathlib.Tactic.ByContra

/-!
# How a recorded tool ends

The last line of a recorded tool ends it as it was recorded, if the shell takes that for an ending at
all (`RecordedEnd.status?`).

* `RecordedEnd.run_text`: the tokens of the line, for every number and every word that names a
  signal.
* `RecordedEnd.finish_line`: what comes of it.
-/

namespace ExportSurface

open Shell

/-! ## Words of signals -/

namespace Signal

/-- The bytes that words of signals are made of. -/
def isSignalByte (b : UInt8) : Bool := b < 0x80 && isOrdinary (Char.ofNat b.toNat)

theorem isSignalByte_of_lower {b : UInt8} : isSignalByte (lower b) → isSignalByte b :=
  forall_byte (P := fun b => isSignalByte (lower b) → isSignalByte b) (by decide +kernel) b

theorem isSignalByte_of_digit {b : UInt8} :
    ('0'.toUInt8 ≤ b && b ≤ '9'.toUInt8) = true → isSignalByte b :=
  forall_byte (P := fun b => ('0'.toUInt8 ≤ b && b ≤ '9'.toUInt8) = true → isSignalByte b)
    (by decide +kernel) b

theorem isSignalByte_of_ofWord? {w : Bytes} {n : Nat} (h : ofWord? w = some n) :
    ∀ b ∈ w, isSignalByte b := by
  intro b hb
  unfold ofWord? at h
  split at h
  · next k hk =>
    obtain ⟨j, hj, -⟩ := Option.map_eq_some_iff.1 hk
    unfold digits? at hj
    split at hj
    · next hdigits => exact isSignalByte_of_digit (List.all_eq_true.1 hdigits.2 b hb)
    · cases hj
  · have hword := List.find?_some h
    have hmem := List.mem_of_find?_eq_some h
    have hall : ∀ k ∈ List.range' 1 greatest,
        ((Utf8.encode (word k)).map lower).all isSignalByte := by decide +kernel
    have hlower := List.all_eq_true.1 (hall n hmem) (lower b)
    rw [of_decide_eq_true hword] at hlower
    exact isSignalByte_of_lower (hlower (List.mem_map_of_mem hb))

/-- Whatever names a signal is a word of a script on its own. -/
theorem isOrdinary_of_ofWord? {signal : Text} {n : Nat}
    (h : ofWord? (Utf8.encode signal) = some n) :
    signal.IsAscii ∧ ∀ c ∈ signal, isOrdinary c := by
  have hbytes := isSignalByte_of_ofWord? h
  have hascii : signal.IsAscii := Text.isAscii_of_encode fun b hb => by
    have := hbytes b hb
    simp only [isSignalByte, Bool.and_eq_true, decide_eq_true_eq] at this
    exact this.1
  refine ⟨hascii, fun c hc => ?_⟩
  have hbyte := hbytes c.toNat.toUInt8 (Text.bytes_eq_encode hascii ▸ List.mem_map_of_mem hc)
  have hsmall := hascii c hc
  simp only [isSignalByte, Bool.and_eq_true, Utf8.toNat_toUInt8 (show c.toNat < 256 by omega),
    Char.ofNat_toNat] at hbyte
  exact hbyte.2

end Signal

/-! ## Endings -/

namespace RecordedEnd

/-- How a recorded ending ends the tool, if the shell takes it. A signal that ends no program lets
the tool end by itself. -/
def status? : RecordedEnd → Option ExitStatus
  | exit code =>
    if 0 ≤ code ∧ code.natAbs ≤ Action.greatestNumber then some (.exited (code.natAbs % 256))
    else none
  | kill signal =>
    (Signal.ofWord? (Utf8.encode signal)).map fun n =>
      if Signal.isFatal n then .signaled n else .exited 0

/-- What is written in the last line. -/
def line : RecordedEnd → List Parser.Written
  | exit code => [.inl (bareWord "exit".toList), .inl (bareWord (Nat.toDigits 10 code.natAbs))]
  | kill signal =>
    [.inl (bareWord "kill".toList), .inl (bareWord ('-' :: signal)), .inl [.parameter ['$'] false]]

variable {e : RecordedEnd} {status : ExitStatus}

theorem status?_exit_eq_some {code : Int} (h : status? (exit code) = some status) :
    0 ≤ code ∧ code.natAbs ≤ Action.greatestNumber ∧ .exited (code.natAbs % 256) = status := by
  simp only [status?] at h
  split_ifs at h with hcode
  exact ⟨hcode.1, hcode.2, Option.some.inj h⟩

/-! ## Tokens -/

theorem isOrdinary_of_isDigit {c : Char} (h : c.isDigit) : c.toNat < 0x80 ∧ isOrdinary c := by
  have hall : ∀ n < 128, (Char.ofNat n).isDigit → isOrdinary (Char.ofNat n) := by decide +kernel
  have hc : c.toNat < 128 := by
    simp only [Char.isDigit, Bool.and_eq_true, decide_eq_true_eq] at h
    exact Nat.lt_of_le_of_lt (UInt32.le_iff_toNat_le.1 h.2) (by decide)
  exact ⟨hc, by simpa using hall c.toNat hc (by simpa using h)⟩

theorem isOrdinary_of_mem_toDigits {c : Char} {n : Nat} (hc : c ∈ Nat.toDigits 10 n) :
    c.toNat < 0x80 ∧ isOrdinary c :=
  isOrdinary_of_isDigit (Nat.isDigit_of_mem_toDigits (by decide) (by decide) hc)

theorem isOrdinaryWord_toDigits (n : Nat) : IsOrdinaryWord (Nat.toDigits 10 n) :=
  ⟨Nat.toDigits_ne_nil, fun _ hc => (isOrdinary_of_mem_toDigits hc).2⟩

theorem text_exit {code : Int} (hcode : 0 ≤ code) :
    (exit code).text = "exit ".toList ++ Nat.toDigits 10 code.natAbs := by
  have hsign : (if code < 0 then ['-'] else []) = ([] : Text) := if_neg (Int.not_lt.2 hcode)
  exact congrArg (fun sign => "exit ".toList ++ sign ++ Nat.toDigits 10 code.natAbs) hsign

theorem text_kill (signal : Text) :
    (kill signal).text = "kill -".toList ++ signal ++ " $$".toList := rfl

theorem run_text (h : e.status? = some status) :
    Tokenizer.run { line := 5 } (e.text ++ ['\n']) = (lineOf 5 e.line, { line := 6 }) := by
  cases e with
  | exit code =>
    have hname : ∀ t ∈ ["exit".toList], IsOrdinaryWord t := by
      simp [IsOrdinaryWord, isOrdinary, isOperatorChar]
    have htext : (exit code).text ++ ['\n'] =
        ["exit".toList].flatMap (· ++ [' ']) ++ (Nat.toDigits 10 code.natAbs ++ ['\n']) := by
      rw [text_exit (status?_exit_eq_some h).1, List.append_assoc]
      rfl
    rw [htext, Tokenizer.run_words 5 hname,
      Tokenizer.run_word (isOrdinaryWord_toDigits code.natAbs) 5 (.inr rfl)]
    rfl
  | kill signal =>
    obtain ⟨n, hn, -⟩ := Option.map_eq_some_iff.1 h
    have hnames : ∀ t ∈ ["kill".toList, '-' :: signal], IsOrdinaryWord t := by
      have := (Signal.isOrdinary_of_ofWord? hn).2
      simpa [IsOrdinaryWord, isOrdinary, isOperatorChar] using this
    have hself : Tokenizer.run { line := 5 } "$$\n".toList =
        ([⟨5, .word [.parameter ['$'] false]⟩, ⟨6, .newline⟩], { line := 6 }) := rfl
    have htext : (kill signal).text ++ ['\n'] =
        ["kill".toList, '-' :: signal].flatMap (· ++ [' ']) ++ "$$\n".toList := by
      simp only [text_kill, List.flatMap_cons, List.flatMap_nil, List.append_assoc, List.append_nil]
      rfl
    rw [htext, Tokenizer.run_words 5 hnames, hself]
    rfl

theorem isAscii_text (h : e.status? = some status) : e.text.IsAscii := by
  cases e with
  | exit code =>
    rw [text_exit (status?_exit_eq_some h).1]
    exact Text.isAscii_append.2 ⟨by decide, fun _ hc => (isOrdinary_of_mem_toDigits hc).1⟩
  | kill signal =>
    obtain ⟨n, hn, -⟩ := Option.map_eq_some_iff.1 h
    rw [text_kill, Text.isAscii_append, Text.isAscii_append]
    exact ⟨⟨by decide, (Signal.isOrdinary_of_ofWord? hn).1⟩, by decide⟩

theorem zero_not_mem_text (h : e.status? = some status) : '\x00' ∉ e.text := by
  have hzero : ¬isOrdinary '\x00' := by decide
  cases e with
  | exit code =>
    rw [text_exit (status?_exit_eq_some h).1, List.mem_append, not_or]
    exact ⟨by decide, fun hmem => hzero (isOrdinary_of_mem_toDigits hmem).2⟩
  | kill signal =>
    obtain ⟨n, hn, -⟩ := Option.map_eq_some_iff.1 h
    rw [text_kill, List.mem_append, List.mem_append, not_or, not_or]
    exact ⟨⟨by decide, fun hmem => hzero ((Signal.isOrdinary_of_ofWord? hn).2 _ hmem)⟩, by decide⟩

/-! ## What the line does -/

section

variable {run : Runner} {execute : Executor} {m : Machine} {s : State} {w : World}

theorem stop_apply {how : Stop} {command : String} {n : Nat} (hn : n ≤ Action.greatestNumber) :
    Builtin.stop [Nat.toDigits 10 n] command how m =
      (.error how, ⟨m.shell.withStatus n, m.world⟩) := by
  simp only [Builtin.stop, Action.bind_apply, Action.number_of_digits rfl hn,
    Action.setStatus_apply, Action.throw_apply]
  rfl

theorem kill_apply {signal : Text} {n : Nat} (hn : Signal.ofWord? (Utf8.encode signal) = some n)
    (happart : m.shell.isApart = false) (htraps : m.shell.traps = []) :
    Builtin.kill ['-' :: signal, State.processNumber] m =
      (if Signal.isFatal n then .error (.ended (.signaled n)) else .ok 0, m) := by
  have hsignal : Builtin.signalOf ['-' :: signal, State.processNumber] =
      pure (n, [State.processNumber]) := by
    simp only [Builtin.signalOf, Text.bytes_eq_encode (Signal.isOrdinary_of_ofWord? hn).1, hn]
  have hnumber : Action.number "kill".toList State.processNumber m = (.ok 1001, m) :=
    Action.number_of_digits rfl (by decide)
  have hsend : Action.send n m =
      (if Signal.isFatal n then .error (.ended (.signaled n)) else .ok (), m) := by
    simp only [Action.send, Action.receive, Action.bind_apply, Action.shell_apply, happart, htraps,
      Bool.false_eq_true, if_false, List.lookup_nil, Option.isSome_none, and_false]
    split <;> rfl
  have hself : (if State.processNumber.head? = some '-' then State.processNumber.tail
      else State.processNumber) = State.processNumber := if_neg (by decide)
  simp only [Builtin.kill, hsignal, List.isEmpty_cons, Bool.false_eq_true, if_false,
    Action.bind_apply, Action.pure_apply, List.foldlM_cons, List.foldlM_nil, hself, hnumber,
    if_true, hsend]
  by_cases hfatal : Signal.isFatal n <;> simp [hfatal]

theorem prepare_exit (n : Nat) :
    prepare run [bareWord "exit".toList, bareWord (Nat.toDigits 10 n)] [] m =
      (.ok { words := ["exit".toList, Nat.toDigits 10 n] }, m) :=
  prepare_of_forall₂ [["exit".toList], [Nat.toDigits 10 n]] rfl
    (.cons (Expansion.fields_bareWord (by decide))
      (.cons (Expansion.fields_bareWord Nat.toDigits_ne_nil) .nil)) .nil rfl

theorem prepare_kill (signal : Text) :
    prepare run [bareWord "kill".toList, bareWord ('-' :: signal), [.parameter ['$'] false]] [] m =
      (.ok { words := ["kill".toList, '-' :: signal, State.processNumber] }, m) :=
  prepare_of_forall₂ [["kill".toList], ['-' :: signal], [State.processNumber]] rfl
    (.cons (Expansion.fields_bareWord (by decide)) (.cons (Expansion.fields_bareWord (by simp))
      (.cons rfl .nil))) .nil rfl

/-- How a step of a script may end the script. -/
inductive Ends (status : ExitStatus) (w : World) : Except Stop Unit × Machine → Prop where
  | leave {m : Machine} (ht : m.shell.traps = []) (hw : m.world = w)
      (hs : .exited (m.shell.status % 256) = status) : Ends status w (.error .leave, m)
  | ended {m : Machine} (hw : m.world = w) : Ends status w (.error (.ended status), m)
  | last {m : Machine} (ho : m.shell.options = []) (ht : m.shell.traps = []) (hw : m.world = w)
      (hs : .exited (m.shell.status % 256) = status) : Ends status w (.ok (), m)

theorem ends_line (hs : s.IsPlain) (happart : s.isApart = false) (h : e.status? = some status) :
    Ends status w (step run execute false (Parser.commandOf 5 e.line) ⟨s, w⟩) := by
  cases e with
  | exit code =>
    obtain ⟨-, hcode, rfl⟩ := status?_exit_eq_some h
    have hinvoke : invoke run execute false ["exit".toList, Nat.toDigits 10 code.natAbs]
        ⟨s.atLine 5, w⟩ = (.error .leave, ⟨(s.atLine 5).withStatus code.natAbs, w⟩) := by
      rw [invoke_of_builtin hs.functions_eq rfl]
      exact perform_of_error (stop_apply hcode) (by decide)
    have hstep : step run execute false (Parser.commandOf 5 (exit code).line) ⟨s, w⟩ = _ :=
      simple_of_stop hs rfl (prepare_exit code.natAbs) Action.follow_nil hinvoke
    rw [hstep]
    exact .leave hs.traps_eq rfl rfl
  | kill signal =>
    obtain ⟨n, hn, rfl⟩ := Option.map_eq_some_iff.1 h
    have hkill := kill_apply (m := ⟨s.atLine 5, w⟩) hn happart hs.traps_eq
    have hperform : invoke run execute false
        ["kill".toList, '-' :: signal, State.processNumber] ⟨s.atLine 5, w⟩ = _ :=
      invoke_of_builtin hs.functions_eq rfl
    by_cases hfatal : Signal.isFatal n
    · rw [if_pos hfatal] at hkill ⊢
      have hstep : step run execute false (Parser.commandOf 5 (kill signal).line) ⟨s, w⟩ = _ :=
        simple_of_stop hs rfl (prepare_kill signal) Action.follow_nil
          (hperform.trans (perform_of_error hkill (by simp)))
      rw [hstep]
      exact .ended rfl
    · rw [if_neg hfatal] at hkill ⊢
      have hstep : step run execute false (Parser.commandOf 5 (kill signal).line) ⟨s, w⟩ = _ :=
        simple_of_invoke hs rfl (prepare_kill signal) Action.follow_nil
          (show "kill".toList ≠ "exec".toList by decide) (hperform.trans (perform_of_ok hkill))
      rw [hstep]
      exact .last hs.options_eq hs.traps_eq rfl rfl

/-- The last line ends the script as it was recorded. -/
theorem finish_line {script : Text} {n k start : Nat} (hs : s.IsPlain) (happart : s.isApart = false)
    (h : e.status? = some status) :
    ∃ m, m.world = w ∧ finish (runner execute (n + 1)) (runTokens (runner execute (n + 1)) script
      (k + 2) start (lineOf 5 e.line ++ [⟨6, .endOfScript⟩])) ⟨s, w⟩ = (.ok status, m) := by
  have hread : nextCommand? (lineOf 5 e.line ++ [⟨6, .endOfScript⟩]) =
      .ok (some (Parser.commandOf 5 e.line), [⟨6, .endOfScript⟩]) := by
    cases e with
    | exit code => exact nextCommand?_lineOf 5 rfl _ _
    | kill signal => exact nextCommand?_lineOf 5 rfl _ _
  have hends : Ends status w
      (step (runner execute n) execute false (Parser.commandOf 5 e.line) ⟨s, w⟩) :=
    ends_line hs happart h
  have hrun : runner execute (n + 1) false (Parser.commandOf 5 e.line) ⟨s, w⟩ = _ :=
    runner_succ hs.options_eq false
  rw [← hrun] at hends
  generalize hr : runner execute (n + 1) false (Parser.commandOf 5 e.line) ⟨s, w⟩ = r at hends
  cases hends with
  | @leave m ht hw hstatus =>
    subst hstatus
    exact ⟨m, hw, finish_of_leave (runTokens_of_error hs.options_eq hread hr) ht⟩
  | @ended m hw => exact ⟨m, hw, finish_of_ended (runTokens_of_error hs.options_eq hread hr)⟩
  | @last m ho ht hw hstatus =>
    subst hstatus
    obtain ⟨next, hnext⟩ := reaches_of_ok (m := ⟨s, w⟩) hs.options_eq hread hr (k + 1) start
    exact ⟨m, hw, finish_of_ok (hnext.trans (runTokens_of_end ho rfl)) ht⟩

end

end RecordedEnd

end ExportSurface
