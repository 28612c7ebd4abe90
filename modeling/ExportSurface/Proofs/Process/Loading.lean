import ExportSurface.Process.Execution
import ExportSurface.Proofs.FileTree.Writing
import Mathlib.Data.List.TakeWhile

/-!
# Loading programs

Scripts lead to the compiled program that runs in the end. However many of them are on the way, the
arguments of the command reach that program unchanged, behind what the scripts put in front of them
(`FileTree.exists_front_of_load`), and what names the command reaches it only if there is no script.

* `InterpreterLine.of?_of_line` reads the line of a script that names nothing but its interpreter.
* `Utility.cat_of_readBytes` says what `cat` does with a file.
-/

namespace ExportSurface

/-! ## Open files -/

namespace World

variable {w : World} {p : Path} {b : Bytes} {t' : FileTree}

/-- What can be read from the tree can be read through a file that is opened. -/
theorem openReading_of_readBytes (h : w.files.readBytes p = .ok b) :
    ∃ k opened, w.openReading p = .ok (k, opened) ∧ opened.available k = .ok b := by
  obtain ⟨⟨l, node⟩, hfind, h⟩ := bind_eq_ok_iff.1 h
  have hl := (FileTree.find_eq_ok_iff.1 hfind).2
  cases node with
  | file mode content =>
    cases hr : mode.isReadable with
    | false => simp [hr, throw_ne_ok] at h
    | true =>
      obtain rfl : content = b := by simpa [hr, pure, Except.pure] using h
      refine ⟨w.opened.length, (w.add { channel := .file l, isReadable := true }).2, ?_, ?_⟩
      · rw [openReading, hfind]
        exact if_pos hr
      · simp [available, add, hl]
  | directory mode => exact absurd h (throw_ne_ok _ _)
  | link target => exact absurd h (throw_ne_ok _ _)
  | void =>
    obtain rfl : [] = b := Except.ok.inj h
    refine ⟨w.opened.length, (w.add { channel := .void, isReadable := true }).2, ?_, ?_⟩
    · rw [openReading, hfind]
      rfl
    · simp [available, add]

theorem writeTo_of_buffer {ds : Descriptors} {d k n : Nat} {f : OpenFile}
    (hd : ds.lookup d = some k)
    (hk : w.opened[k]? = some f) (hw : f.isWritable) (hc : f.channel = .buffer n) :
    w.writeTo ds d b = .ok { w with buffers := w.buffers.modify n (· ++ b) } := by
  simp [writeTo, hd, write, hk, hw, hc]

/-- A file that is opened and written to holds what writing it as a whole leaves. -/
theorem write_of_openWriting (h : w.files.write p b = .ok t') :
    ∃ w₁ f, w.openWriting p false = .ok (w.opened.length, w₁) ∧
      w₁.write w.opened.length b = .ok ⟨t', w.opened ++ [f], w.buffers⟩ := by
  obtain ⟨l, hl, ⟨hvoid, rfl⟩ | ⟨m, hm, rfl, hwrite⟩⟩ := FileTree.write_eq_ok h
  · have hwrite : w.files.write p [] = .ok w.files := by
      simp [FileTree.write, hl, hvoid, bind, Except.bind, pure, Except.pure]
    refine ⟨(w.add { channel := .void, isWritable := true }).2,
      { channel := .void, isWritable := true }, ?_, ?_⟩
    · simp [openWriting, hl, hvoid, hwrite, add, bind, Except.bind, pure, Except.pure]
    · simp [write, add]
  · let f : OpenFile := { channel := .file l, isWritable := true }
    refine ⟨(({ w with files := w.files.put l (.file m []) } : World).add f).2,
      { f with offset := b.length }, ?_, ?_⟩
    · simp [openWriting, hl, hwrite, bind, Except.bind, pure, Except.pure]
      split <;> rfl
    · have hopened :
          (w.opened ++ [f]).modify w.opened.length (fun f => { f with offset := b.length }) =
          w.opened ++ [{ f with offset := b.length }] := by
        rw [List.modify_eq_take_cons_drop (by simp)]
        simp
      simp [write, add, overwrite, hm, FileTree.put_put, hopened, f]

end World

namespace Utility

/-- A file that can be read is printed as it is. -/
theorem cat_of_readBytes {p : Process} {w w' : World} {file : Text} {b : Bytes}
    (ha : p.arguments = [file])
    (h₁ : file ≠ ['-']) (h₂ : file ≠ ['-', '-']) (h : w.files.readBytes (.ofBytes file) = .ok b)
    (hw : w.writeTo p.descriptors Process.standardOutput b = .ok w') :
    cat p w = (.exited 0, w') := by
  obtain ⟨k, opened, ho, hb⟩ := World.openReading_of_readBytes h
  have hc : contents p w file = .ok (b, w) := by
    simp [contents, h₁, ho, hb, bind, Except.bind, pure, Except.pure]
  have hf : catFile p w file = (true, w') := by
    simp [catFile, hc, hw, Except.toOption]
  simp [cat, ha, h₂, catFiles, hf]

end Utility

/-! ## First lines -/

namespace InterpreterLine

/-- A name that the system finds in the first line of a script. -/
structure IsName (name : Bytes) : Prop where
  ne_nil : name ≠ []
  ordinary : ∀ b ∈ name, b ≠ 0 ∧ b ≠ '\n'.toUInt8 ∧ isBlank b = false
  length_le : name.length + 3 ≤ headLength

variable {name : Bytes}

theorem dropTrailing_of_last {α : Type} {p : α → Bool} {s : List α} {a : α} (h : p a = false) :
    dropTrailing p (s ++ [a]) = s ++ [a] := by
  simp [dropTrailing, h]

theorem text?_of_line (h : IsName name) (rest : Bytes) :
    text? (Utf8.encode "#!".toList ++ (name ++ '\n'.toUInt8 :: rest)) = some name := by
  obtain ⟨k, hk⟩ : ∃ k, headLength = 2 + (name.length + (k + 1)) :=
    ⟨headLength - name.length - 3, by have := h.length_le; omega⟩
  have htake : (Utf8.encode "#!".toList ++ (name ++ '\n'.toUInt8 :: rest)).take headLength =
      Utf8.encode "#!".toList ++ (name ++ '\n'.toUInt8 :: rest.take k) := by
    have : (Utf8.encode "#!".toList).length = 2 := rfl
    rw [hk, ← this, List.take_length_add_append, List.take_length_add_append, List.take_succ_cons]
  have hdrop := dropPrefix?_eq_some_iff.2 htake
  have hline : (name ++ '\n'.toUInt8 :: rest.take k).takeWhile
      (fun b => b ≠ 0 && b ≠ '\n'.toUInt8) = name := by
    have hkept : ∀ b ∈ name, (b ≠ 0 && b ≠ '\n'.toUInt8) = true := by
      simpa using fun b hb => ⟨(h.ordinary b hb).1, (h.ordinary b hb).2.1⟩
    rw [List.takeWhile_append_of_pos hkept]
    simp
  have hlast : dropTrailing isBlank name = name := by
    obtain ⟨s, a, rfl⟩ := List.eq_nil_or_concat name |>.resolve_left h.ne_nil
    rw [List.concat_eq_append] at h ⊢
    exact dropTrailing_of_last (h.ordinary a (by simp)).2.2
  have hall : name.all isBlank = false := by
    obtain ⟨a, s, rfl⟩ := List.exists_cons_of_ne_nil h.ne_nil
    simp [(h.ordinary a (by simp)).2.2]
  simp only [text?, hdrop, bind, Option.bind, hline]
  simp [hall, hlast]

/-- A line that names an interpreter and nothing else. -/
theorem of?_of_line (h : IsName name) (rest : Bytes) :
    of? (Utf8.encode "#!".toList ++ (name ++ '\n'.toUInt8 :: rest)) = some ⟨⟨name⟩, none⟩ := by
  have hblank : ∀ b ∈ name, isBlank b = false := fun b hb => (h.ordinary b hb).2.2
  have hdrop : name.dropWhile isBlank = name := by
    obtain ⟨a, s, rfl⟩ := List.exists_cons_of_ne_nil h.ne_nil
    exact List.dropWhile_cons_of_neg (by simp [hblank a])
  have htake : name.takeWhile (!isBlank ·) = name :=
    List.takeWhile_eq_self_iff.2 (by simpa using hblank)
  have htext := text?_of_line h rest
  simp only [of?, htext, bind, Option.bind, hdrop, htake]
  simp

end InterpreterLine

/-! ## Loading -/

namespace FileTree

variable {t : FileTree} {p : Path} {content : Bytes} {name : Text} {words words' : List Text}
  {n : Nat}

theorem programContent_congr {t' : FileTree} {l : Location} (h : AgreesOff l t t')
    (hl : t.IsDeadEnd l) (hp : t.LeadsOff p l) : t'.programContent p = t.programContent p := by
  simp only [programContent, find_congr_of_leadsOff h hl hp]

theorem load_of_binary (h : t.programContent p = .ok content)
    (hname : Binary.name? content = some name) :
    t.load (n + 1) p words = .ok (name, words) := by
  simp [load, h, hname, bind, Except.bind, pure, Except.pure]

theorem load_of_script {i : InterpreterLine} (h : t.programContent p = .ok content)
    (hname : Binary.name? content = none) (hi : InterpreterLine.of? content = some i) :
    t.load (n + 1) p words = t.load n i.program
      ((i.program.bytes :: i.argument?.toList ++ [p.bytes]).map Bytes.characters ++ words.tail) := by
  simp [load, h, hname, hi, bind, Except.bind]

/-- **The arguments stay behind.** The program at the end of all scripts gets the arguments of the
command, behind the words that the scripts put in front of them. -/
theorem exists_front_of_load (h : t.load n p words = .ok (name, words')) (hwords : words ≠ []) :
    ∃ front, front ≠ [] ∧ words' = front ++ words.tail := by
  induction n generalizing p words with
  | zero =>
    obtain ⟨_, -, h⟩ := bind_eq_ok_iff.1 h
    exact absurd h (throw_ne_ok _ _)
  | succ n ih =>
    obtain ⟨content, -, h⟩ := bind_eq_ok_iff.1 h
    split at h
    · obtain ⟨-, rfl⟩ := Prod.mk.inj (Except.ok.inj h)
      obtain ⟨w, ws, rfl⟩ := List.exists_cons_of_ne_nil hwords
      exact ⟨[w], by simp, rfl⟩
    · exact absurd h (throw_ne_ok _ _)
    · next i _ _ =>
      obtain ⟨front, hfront, rfl⟩ := ih h (by simp)
      exact ⟨front ++ (i.argument?.toList ++ [p.bytes]).map Bytes.characters, by simp [hfront],
        by simp⟩

end FileTree

/-! ## Executing -/

namespace Process

variable {path : Path} {p : Process} {w : World} {n : Nat}

theorem exists_execute_eq : ∃ n, execute = executeIn (n + 2) := ⟨999998, rfl⟩

theorem executeIn_of_error {e : SystemError} (h : w.files.programContent path = .error e) :
    executeIn (n + 1) path p w = .error e := by
  simp [executeIn, h, bind, Except.bind]

theorem executeIn_of_load {name : Text} {content : Bytes} {words : List Text}
    (hcontent : w.files.programContent path = .ok content)
    (hshort : ∀ t ∈ p.words, t.length < wordLimit)
    (h : w.files.load FileTree.scriptLimit path p.words = .ok (name, words)) :
    executeIn (n + 1) path p w = perform (executeIn n) name { p with words } w := by
  have hany : p.words.any (wordLimit ≤ ·.length) = false := by
    simpa using hshort
  simp [executeIn, hcontent, hany, h, bind, Except.bind]

end Process

end ExportSurface
