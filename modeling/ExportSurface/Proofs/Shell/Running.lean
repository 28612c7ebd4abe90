import ExportSurface.Proofs.Process.Loading
import ExportSurface.Proofs.Shell.Acting

/-!
# Running plain commands

In a shell without options, functions and traps a simple command does what its name says and leaves
a status; nothing else of the shell is changed.

* `simple_of_invoke` runs a command to its end, and `simple_of_stop` one that stops the script.
* `reaches_of_ok` and `runTokens_of_error` run the first command of a script, and `Reaches.trans`
  goes on.
* `main_of_finish` leads from the start of the shell to its script.
-/

namespace ExportSurface.Shell

open ExportSurface.Shell.Action

variable {run : Runner} {execute : Executor} {m m₁ m₂ : Machine}

/-! ## Processes -/

theorem attempt_of_error {a : Action Unit} {e : Stop} (h : a m = (.error e, m₁)) :
    attempt a m = (.ok (match e with | .ended status => some status | _ => none), m₁) := by
  simp only [attempt, tryCatch_apply, bind_apply, h]
  cases e <;> simp

theorem finish_of_ended {a : Action Unit} {status : ExitStatus}
    (h : a m = (.error (.ended status), m₁)) :
    finish run a m = (.ok status, m₁) := by
  simp [finish, attempt_of_error h]

theorem finish_of_leave {a : Action Unit} (h : a m = (.error .leave, m₁))
    (ht : m₁.shell.traps = []) :
    finish run a m = (.ok (.exited (m₁.shell.status % 256)), m₁) := by
  simp [finish, attempt_of_error h, ht]

theorem finish_of_ok {a : Action Unit} (h : a m = (.ok (), m₁)) (ht : m₁.shell.traps = []) :
    finish run a m = (.ok (.exited (m₁.shell.status % 256)), m₁) := by
  simp [finish, attempt, h, ht]

theorem finish_congr {a b : Action Unit} (h : a m = b m₁) : finish run a m = finish run b m₁ := by
  simp only [finish, attempt, bind_apply, tryCatch_apply, h]

/-- Of a process of its own, only what it did to the world remains. -/
theorem apart_of_ended {a : Action Unit} {status : ExitStatus} {w : World}
    (h : ∀ s : State, s.descriptors = m.shell.descriptors → s.bindings = m.shell.bindings →
      a ⟨s, m.world⟩ = (.error (.ended status), ⟨s, w⟩)) :
    apart run [] a m = (.ok status, { m with world := w }) := by
  let ds : Descriptors :=
    [] ++ m.shell.descriptors.filter fun d => (List.lookup d.1 ([] : Descriptors)).isNone
  have hds : ds = m.shell.descriptors := List.filter_eq_self.2 (by simp)
  let s : State :=
    { m.shell with
      descriptors := ds, traps := m.shell.traps.filter (·.2.isEmpty), pending := [], isApart := true
      sent := [] }
  have hbody : finish run a ⟨s, m.world⟩ = (.ok status, ⟨s, w⟩) := finish_of_ended (h s hds rfl)
  simp only [s, ds] at hbody
  simp only [apart, bind_apply, shell_apply, change_apply, hbody, forM_nil_apply, pure_apply]

/-! ## Programs -/

section

variable {name : Text} {arguments : List Text} {isTested : Bool}

theorem startFirst_of_ok {path : Text} {paths words : List Text} {fault : SystemError}
    {status : ExitStatus} {w : World}
    (h : execute (.ofBytes path) ⟨words, m.shell.descriptors, m.shell.environment⟩ m.world =
      .ok (status, w)) :
    startFirst execute words fault (path :: paths) m =
      (.error (.ended status), { m with world := w }) := by
  simp [startFirst, h]

theorem replaceBy_of_ok {command : String} {status : ExitStatus} {w : World} (hslash : '/' ∈ name)
    (h : execute (.ofBytes name) ⟨name :: arguments, m.shell.descriptors, m.shell.environment⟩
      m.world = .ok (status, w)) :
    replaceBy command execute (name :: arguments) m =
      (.error (.ended status), { m with world := w }) := by
  simp [replaceBy, candidates, hslash, startFirst_of_ok h]

/-- A program that is called by its path leaves its status. -/
theorem invoke_of_program {n : Nat} {w : World} (hfunctions : m.shell.functions = [])
    (hbuiltin : Builtin.all.lookup name = none) (hexec : name ≠ "exec".toList) (hslash : '/' ∈ name)
    (h : execute (.ofBytes name) ⟨name :: arguments, m.shell.descriptors, m.shell.environment⟩
      m.world = .ok (.exited n, w)) :
    invoke run execute isTested (name :: arguments) m =
      (.ok (), ⟨m.shell.withStatus n, w⟩) := by
  have ha : apart run [] (replaceBy "" execute (name :: arguments)) m =
      (.ok (.exited n), { m with world := w }) := by
    refine apart_of_ended fun s hds hvs => replaceBy_of_ok hslash ?_
    simpa [hds, hvs, State.environment] using h
  simp only [invoke, bind_apply, shell_apply, hfunctions, hbuiltin, List.lookup_nil, if_neg hexec,
    ha, statusOf, pure_apply, ExitStatus.number, setStatus_apply, State.withStatus]

theorem invoke_of_builtin {command : List Text → Action Nat} (hfunctions : m.shell.functions = [])
    (hbuiltin : Builtin.all.lookup name = some command) :
    invoke run execute isTested (name :: arguments) m =
      perform (name ∈ Builtin.special) (command arguments) m := by
  simp only [invoke, bind_apply, shell_apply, hfunctions, hbuiltin, List.lookup_nil]

theorem perform_of_ok {isSpecial : Bool} {command : Action Nat} {n : Nat}
    (h : command m = (.ok n, m₁)) :
    perform isSpecial command m = (.ok (), ⟨m₁.shell.withStatus n, m₁.world⟩) := by
  simp [perform, h, State.withStatus]

theorem printf_of_print {format t : Text} {ws : List Text}
    (hformat : Printing.formatted format ws = .ok t)
    (hprint : print Process.standardOutput t m = (.ok true, m₁)) :
    Builtin.printf (format :: ws) m = (.ok 0, m₁) := by
  simp only [Builtin.printf, hformat, Builtin.printed, bind_apply, hprint, if_true, pure_apply]

theorem perform_of_error {isSpecial : Bool} {command : Action Nat} {e : Stop}
    (h : command m = (.error e, m₁)) (he : e ≠ .fault) :
    perform isSpecial command m = (.error e, m₁) := by
  simp [perform, h, he]

end

/-! ## Simple commands -/

/-- A shell in which no option is on, no function is defined and nothing is done when signals
come. -/
structure State.IsPlain (s : State) : Prop where
  options_eq : s.options = []
  functions_eq : s.functions = []
  traps_eq : s.traps = []
  pending_eq : s.pending = []

theorem mapM_of_forall₂ {α β : Type} {f : α → Action β} {as : List α} {bs : List β}
    (h : List.Forall₂ (fun a b => f a m = (.ok b, m)) as bs) : as.mapM f m = (.ok bs, m) := by
  induction h with
  | nil => rfl
  | cons ha _ ih => simp only [List.mapM_cons, bind_apply, ha, ih, pure_apply]

/-- A command without assignments is expanded word by word. -/
theorem prepare_of_forall₂ (fields : List (List Text)) {words : List Word} {rs : List Redirection}
    {targets : List Target} {ws : List Text} (hsplit : splitAssignments words = ([], words))
    (hwords : List.Forall₂ (fun w f => Expansion.fields (takeOutput run) w m = (.ok f, m))
      words fields)
    (htargets : List.Forall₂ (fun r t => Expansion.target (takeOutput run) r m = (.ok t, m))
      rs targets)
    (hws : fields.flatten = ws) : prepare run words rs m = (.ok { words := ws, targets }, m) := by
  simp only [prepare, hsplit, bind_apply, mapM_of_forall₂ hwords, mapM_of_forall₂ htargets,
    List.mapM_nil, pure_apply, hws]

theorem restored_nil (old vs : List (Text × Variable)) : restored old [] vs = vs := by
  have kept : vs.filter (fun _ => true) = vs := List.filter_eq_self.2 (by simp)
  have dropped : old.filter (fun _ => false) = [] := List.filter_eq_nil_iff.2 (by simp)
  simp [restored, kept, dropped]

theorem trace_apply (h : m.shell.options = []) (p : Prepared) : trace p m = (.ok (), m) := by
  simp [trace, h]

theorem check_apply (h : m.shell.options = []) (isTested : Bool) :
    check isTested m = (.ok (), m) := by
  simp [check, h]

theorem runTraps_apply (run : Runner) (h : m.shell.pending = []) :
    runTraps run m = (.ok (), m) := by
  obtain ⟨s, w⟩ := m
  obtain ⟨_, _, _, _, _, _, _, _, _, _, pending, _, _⟩ := s
  obtain rfl : pending = [] := h
  simp [runTraps]

section

variable {s : State} {w w₁ w₂ : World} {ds : Descriptors} {isTested : Bool} {line : Nat}
  {words : List Word} {rs : List Redirection} {p : Prepared}

variable (hs : s.IsPlain) (hassignments : p.assignments = [])
  (hprepare : prepare run words rs ⟨s.atLine line, w⟩ = (.ok p, ⟨s.atLine line, w⟩))
  (hfollow : follow p.targets ⟨s.atLine line, w⟩ =
    (.ok true, ⟨(s.atLine line).withDescriptors ds, w₁⟩))

include hs hassignments hprepare hfollow

theorem simple_of_invoke {n : Nat} (hexec : p.name ≠ "exec".toList)
    (h : invoke run execute isTested p.words ⟨(s.atLine line).withDescriptors ds, w₁⟩ =
      (.ok (), ⟨((s.atLine line).withDescriptors ds).withStatus n, w₂⟩)) :
    simple run execute isTested line words rs ⟨s, w⟩ =
      (.ok (), ⟨(s.atLine line).withStatus n, w₂⟩) := by
  have htrace := trace_apply (m := ⟨(s.atLine line).withDescriptors ds, w₁⟩) hs.options_eq p
  have hcarry : carryOut run execute isTested p ⟨s.atLine line, w⟩ =
      (.ok (), ⟨(s.atLine line).withStatus n, w₂⟩) := by
    simp only [carryOut, bind_apply, shell_apply, hfollow, if_true, hassignments, forM_nil_apply,
      htrace, h, change_apply, if_neg hexec, restored_nil, ite_self]
    rfl
  have htraps := runTraps_apply run (m := ⟨(s.atLine line).withStatus n, w₂⟩) hs.pending_eq
  have hcheck := check_apply (m := ⟨(s.atLine line).withStatus n, w₂⟩) hs.options_eq isTested
  have hstart : change (fun s => { s with line, outputStatus := 0 }) ⟨s, w⟩ =
    (.ok (), ⟨s.atLine line, w⟩) := rfl
  simp only [simple, bind_apply, hstart, hprepare, hcarry, htraps, hcheck]

theorem simple_of_stop {e : Stop}
    (h : invoke run execute isTested p.words ⟨(s.atLine line).withDescriptors ds, w₁⟩ =
      (.error e, m)) :
    simple run execute isTested line words rs ⟨s, w⟩ = (.error e, m) := by
  have htrace := trace_apply (m := ⟨(s.atLine line).withDescriptors ds, w₁⟩) hs.options_eq p
  have hcarry : carryOut run execute isTested p ⟨s.atLine line, w⟩ = (.error e, m) := by
    simp only [carryOut, bind_apply, shell_apply, hfollow, if_true, hassignments, forM_nil_apply,
      htrace, h]
  have hstart : change (fun s => { s with line, outputStatus := 0 }) ⟨s, w⟩ =
    (.ok (), ⟨s.atLine line, w⟩) := rfl
  simp only [simple, bind_apply, hstart, hprepare, hcarry]

end

/-! ## Scripts -/

/-- In `k` commands a runner gets from some tokens of a script to others, whatever line it is in. -/
def Reaches (run : Runner) (script : Text) (k : Nat) (ts : List Lexeme) (m : Machine)
    (rest : List Lexeme) (m₁ : Machine) : Prop :=
  ∀ n start, ∃ next, runTokens run script (n + k) start ts m = runTokens run script n next rest m₁

section

variable {script : Text} {n start : Nat} {ts rest : List Lexeme} {c : Command}

theorem Reaches.trans {j k : Nat} {us : List Lexeme} (h : Reaches run script j ts m us m₁)
    (h' : Reaches run script k us m₁ rest m₂) : Reaches run script (k + j) ts m rest m₂ := by
  intro n start
  obtain ⟨next, hnext⟩ := h (n + k) start
  obtain ⟨last, hlast⟩ := h' n next
  refine ⟨last, ?_⟩
  rw [← Nat.add_assoc, hnext, hlast]

/-- A command that was run to its end is followed by the rest of the script. -/
theorem reaches_of_ok (ho : m.shell.options = []) (hread : nextCommand? ts = .ok (some c, rest))
    (hrun : run false c m = (.ok (), m₁)) : Reaches run script 1 ts m rest m₁ := by
  intro n start
  exact ⟨_, by simp [runTokens, StateT.run, hread, ho, hrun]; rfl⟩

theorem runTokens_of_error {e : Stop} (ho : m.shell.options = [])
    (hread : nextCommand? ts = .ok (some c, rest)) (hrun : run false c m = (.error e, m₁)) :
    runTokens run script (n + 1) start ts m = (.error e, m₁) := by
  simp [runTokens, StateT.run, hread, ho, hrun]

theorem runTokens_of_end (ho : m.shell.options = []) (hread : nextCommand? ts = .ok (none, rest)) :
    runTokens run script (n + 1) start ts m = (.ok (), m) := by
  simp [runTokens, StateT.run, hread, ho]

theorem runner_succ (ho : m.shell.options = []) (isTested : Bool) :
    runner execute (n + 1) isTested c m = step (runner execute n) execute isTested c m := by
  simp [runner, ho]

theorem reaches_of_step {j : Nat} (ho : m.shell.options = [])
    (hread : nextCommand? ts = .ok (some c, rest))
    (hstep : step (runner execute j) execute false c m = (.ok (), m₁)) :
    Reaches (runner execute (j + 1)) script 1 ts m rest m₁ :=
  reaches_of_ok ho hread ((runner_succ ho false).trans hstep)

end

/-! ## The shell as a program -/

theorem readOptions_of_word {command : String} {name : Text} {ws : List Text}
    (hminus : name.head? ≠ some '-') (hplus : name.head? ≠ some '+') :
    Builtin.readOptions command (name :: ws) = pure (name :: ws) := by
  unfold Builtin.readOptions
  split <;> simp_all

theorem scriptContent_of_readBytes {name : Text} {w : World} {b : Bytes}
    (h : w.files.readBytes (.ofBytes name) = .ok b) : scriptContent name w = .ok (b, w) := by
  obtain ⟨k, opened, hopen, havailable⟩ := World.openReading_of_readBytes h
  simp [scriptContent, hopen, havailable, Except.toOption, bind, Except.bind, pure, Except.pure]

/-- The shell reads the script that its first argument names, and runs it with the other arguments
as parameters. -/
theorem main_of_finish {p : Process} {w : World} {P : World → Prop} {interpreter name : Text}
    {arguments : List Text} {content : Bytes} {status : ExitStatus}
    (hwords : p.words = interpreter :: name :: arguments)
    (hminus : name.head? ≠ some '-') (hplus : name.head? ≠ some '+')
    (hread : w.files.readBytes (.ofBytes name) = .ok content)
    (hfinish : ∀ n, ∃ m : Machine, P m.world ∧
      finish (runner execute (n + 1)) (runText (runner execute (n + 1)) (Bytes.characters content))
        ⟨{ startingState p with name, parameters := arguments }, w⟩ = (.ok status, m)) :
    ∃ w', P w' ∧ main execute p w = (status, w') := by
  obtain ⟨n, hn⟩ : ∃ n, patience = n + 1 := ⟨999999999, rfl⟩
  obtain ⟨m, hm, hfinish⟩ := hfinish n
  have hcontent : ask (scriptContent name) ⟨startingState p, w⟩ =
      (.ok (.ok content), ⟨startingState p, w⟩) := by
    rw [ask_apply, scriptContent_of_readBytes hread]
  have hrun : runWords (runner execute (n + 1)) p.arguments ⟨startingState p, w⟩ =
      runText (runner execute (n + 1)) (Bytes.characters content)
        ⟨{ startingState p with name, parameters := arguments }, w⟩ := by
    simp only [runWords, Process.arguments, hwords, List.tail_cons, bind_apply,
      readOptions_of_word hminus hplus, pure_apply, hcontent, change_apply]
  have hmain := (finish_congr hrun).trans hfinish
  refine ⟨m.world, hm, ?_⟩
  simp only [main, hn, ExceptT.run, StateT.run, hmain]
  rfl

end ExportSurface.Shell
