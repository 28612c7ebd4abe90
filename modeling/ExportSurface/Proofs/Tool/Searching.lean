import ExportSurface.Proofs.Process.Loading
import ExportSurface.Proofs.Text.Pieces
import ExportSurface.Tool.SearchPath

/-!
# Searching for the tool

Of all the places where a program may be, the first one that can be started is taken, and those before it
leave no trace.

* `SearchPath.firstStart_eq_ok_iff` and `SearchPath.firstStart_eq_reported`: what a search finds, and the
  fault that it reports if it finds nothing.
* `SearchPath.candidates_of_short`: where it searches.
* `SearchPath.launch_eq_error`: a tool that was not started changed nothing.
-/

namespace ExportSurface.SearchPath

/-- A candidate with such a fault is passed over. -/
def IsPassedOver (e : SystemError) : Prop :=
  e = .notFound ∨ e = .notADirectory ∨ e = .permissionDenied

/-! ## The first that can be started -/

section

variable {α : Type} {start : Path → Except SystemError α} {fault : SystemError} {ps : List Path}

theorem firstStart_append {before : List Path}
    (h : ∀ q ∈ before, ∃ e, start q = .error e ∧ IsPassedOver e)
    (fault : SystemError) (ps : List Path) :
    ∃ fault', firstStart start fault (before ++ ps) = firstStart start fault' ps := by
  induction before generalizing fault with
  | nil => exact ⟨fault, rfl⟩
  | cons q before ih =>
    obtain ⟨e, he, hpassed⟩ := h q (by simp)
    obtain ⟨fault', hrest⟩ := ih (fun p hp => h p (by simp [hp]))
      (if fault = .permissionDenied then fault else e)
    refine ⟨fault', ?_⟩
    rw [List.cons_append, firstStart, he]
    exact (if_pos hpassed).trans hrest

/-- **The first that can be started.** A search takes a candidate if all that come before it are passed
over. -/
theorem firstStart_eq_ok_iff {a : α} :
    firstStart start fault ps = .ok a ↔ ∃ before p after,
      ps = before ++ p :: after ∧ start p = .ok a ∧
      ∀ q ∈ before, ∃ e, start q = .error e ∧ IsPassedOver e := by
  constructor
  · intro h
    induction ps generalizing fault with
    | nil => simp [firstStart] at h
    | cons p ps ih =>
      cases hp : start p with
      | ok b =>
        simp only [firstStart, hp] at h
        exact ⟨[], p, ps, rfl, hp.trans h, by simp⟩
      | error e =>
        rw [firstStart, hp] at h
        by_cases hpassed : IsPassedOver e
        · obtain ⟨before, q, after, rfl, hq, hbefore⟩ := ih ((if_pos hpassed).symm.trans h)
          refine ⟨p :: before, q, after, rfl, hq, ?_⟩
          simpa using ⟨⟨e, hp, hpassed⟩, hbefore⟩
        · exact absurd ((if_neg hpassed).symm.trans h) (by simp)
  · rintro ⟨before, p, after, rfl, hp, hbefore⟩
    obtain ⟨fault', h⟩ := firstStart_append hbefore fault (p :: after)
    rw [h, firstStart, hp]

/-- The fault to report after some faults: that a program may not be run, or else the last one. -/
def reported (fault : SystemError) (es : List SystemError) : SystemError :=
  if .permissionDenied ∈ fault :: es then .permissionDenied else es.getLastD fault

/-- **Nothing to start.** If every candidate is passed over, one that may not be run is told of rather
than those that are missing. -/
theorem firstStart_eq_reported {es : List SystemError}
    (h : List.Forall₂ (fun q e => start q = .error e ∧ IsPassedOver e) ps es) :
    firstStart start fault ps = .error (reported fault es) := by
  induction h generalizing fault with
  | nil => by_cases hf : fault = .permissionDenied <;> simp [firstStart, reported, hf, Ne.symm]
  | @cons q e ps es hq _ ih =>
    have hnext : firstStart start fault (q :: ps) =
        .error (reported (if fault = .permissionDenied then fault else e) es) := by
      rw [firstStart, hq.1]
      exact (if_pos hq.2).trans ih
    rw [hnext]
    by_cases hf : fault = .permissionDenied
    · simp [reported, hf]
    · simp [reported, hf, Ne.symm hf, List.getLastD_cons, -List.getLastD_eq_getLast?]

end

/-! ## Where to search -/

theorem places_of_le {limit : Nat} {tool : Path} {ds : List Bytes}
    (h : ∀ d ∈ ds, d.length ≤ limit) :
    places limit tool ds =
      ds.map fun d => if d.isEmpty then tool else ⟨d ++ Path.slash :: tool.bytes⟩ := by
  induction ds with
  | nil => rfl
  | cons d ds ih =>
    have hds := ih fun d hd => h d (by simp [hd])
    cases d with
    | nil => simp [places, hds]
    | cons b d => simp [places, hds, show d.length + 1 ≤ limit from h (b :: d) (by simp)]

/-- A bare name is searched for in every directory of a search path of usual length, and in the working
directory for each entry that is empty. -/
theorem candidates_of_short {searchPath : Bytes} {tool : Path}
    (hpath : searchPath.length < FileTree.pathLimit)
    (htool : Path.slash ∉ tool.bytes) :
    candidates searchPath tool = (pieces ':'.toUInt8 searchPath).map fun d =>
      if d.isEmpty then tool else ⟨d ++ Path.slash :: tool.bytes⟩ := by
  rw [candidates, if_neg htool]
  refine places_of_le fun d hd => ?_
  have := (isInfix_of_mem_pieces hd).length_le
  simp only [entryLimit]
  omega

/-! ## Launching -/

section

variable {environment : List (Text × Text)} {t t' : FileTree} {tool p : Path}
  {arguments : List Bytes}

/-- The candidates for a tool in an environment. -/
def searched (environment : List (Text × Text)) (tool : Path) : List Path :=
  candidates ((environment.lookup "PATH".toList).getD []).bytes tool

/-- Starts a candidate for a tool. -/
def startAt (environment : List (Text × Text)) (t : FileTree) (tool : Path) (arguments : List Bytes)
    (p : Path) : Except SystemError (ExitStatus × World) :=
  Process.execute p ⟨(tool.bytes :: arguments).map Bytes.characters, (startingWorld t).2, environment⟩
    (startingWorld t).1

theorem launch_eq : launch environment t tool arguments =
    match firstStart (startAt environment t tool arguments) .noProgram (searched environment tool) with
    | .error e => (.error e, t)
    | .ok (status, w) => (.ok ⟨status, w.buffers.getD 0 [], w.buffers.getD 1 []⟩, w.files) := rfl

/-- A tool that was not started changed nothing. -/
theorem launch_eq_error {e : SystemError} (h : launch environment t tool arguments = (.error e, t')) :
    t' = t := by
  rw [launch_eq] at h
  split at h
  · exact (Prod.mk.inj h).2.symm
  · simp at h

/-- **The tool that runs.** A program that can be started runs as the tool, if the places before it in the
search path hold nothing that may be run. -/
theorem launch_of_found {before after : List Path} {status : ExitStatus} {w : World}
    (hsearched : searched environment tool = before ++ p :: after)
    (hbefore : ∀ q ∈ before, ∃ e, t.programContent q = .error e ∧ IsPassedOver e)
    (hstart : startAt environment t tool arguments p = .ok (status, w)) :
    launch environment t tool arguments =
      (.ok ⟨status, w.buffers.getD 0 [], w.buffers.getD 1 []⟩, w.files) := by
  have hpassed : ∀ q ∈ before, ∃ e,
      startAt environment t tool arguments q = .error e ∧ IsPassedOver e := by
    intro q hq
    obtain ⟨e, he, hpassed⟩ := hbefore q hq
    obtain ⟨n, hn⟩ := Process.exists_execute_eq
    refine ⟨e, ?_, hpassed⟩
    rw [startAt, hn]
    exact Process.executeIn_of_error he
  have hfirst : firstStart (startAt environment t tool arguments) .noProgram (searched environment tool) =
      .ok (status, w) := firstStart_eq_ok_iff.2 ⟨before, p, after, hsearched, hstart, hpassed⟩
  rw [launch_eq, hfirst]

/-- A source that could not start its tool left the files as they were. -/
theorem ofTool_not_started {platform : Platform} {target : Path} {e : SystemError}
    (h : Source.ofTool (launch environment) tool platform t target =
      (.error (.toolNotStarted tool e), t')) :
    t' = t := by
  simp only [Source.ofTool] at h
  split_ifs at h with hzero
  · exact (Prod.mk.inj h).2.symm
  · split at h
    · next cause t₁ hlaunch =>
      rw [launch_eq_error hlaunch] at h
      exact (Prod.mk.inj h).2.symm
    · next r t₁ hlaunch =>
      have hlisting := (Prod.mk.inj h).1
      simp only [ToolRun.listing] at hlisting
      split at hlisting
      · split at hlisting <;> simp at hlisting
      · simp at hlisting

end

end ExportSurface.SearchPath
