import ExportSurface.Proofs.Text.Pieces
import ExportSurface.Proofs.Text.Words
import ExportSurface.Snapshot.Codec

/-!
# Snapshots read back

What reading takes from a snapshot, line by line.

* `decode_append_cons`: reading is local to lines.
* `Listable` says which names a line can hold; `listable_of_mem_decode` that reading gives such names
  only, and `mem_decode_of_listable` that it gives a listable name back.
* `mem_decode_header`: of a header reading takes what stands behind the first line feed in the name of
  the library (`SnapshotHeader.overflow`), and nothing else.
* `decode_encode` says what is read from the snapshot of any set, and when it is the set.
-/

namespace ExportSurface

/-- What stands behind the first line feed in the name of the library. It makes lines of its own. -/
def SnapshotHeader.overflow (h : SnapshotHeader) : Text := (h.targetName.dropWhile (· ≠ '\n')).tail

namespace Snapshot

/-! ## Lines -/

/-- A name that a line of a snapshot can hold. -/
structure Listable (n : Text) : Prop where
  ne_nil : n ≠ []
  head_not_blank : ∀ c ∈ n.head?, ¬isBlank c
  last_not_blank : ∀ c ∈ n.getLast?, ¬isBlank c
  not_mem_line_feed : '\n' ∉ n
  not_comment : n.head? ≠ some commentMark

theorem nameOfLine?_eq_some_iff {line n : Text} :
    nameOfLine? line = some n ↔ Text.trim line = n ∧ n ≠ [] ∧ n.head? ≠ some commentMark := by
  unfold nameOfLine?
  cases ht : Text.trim line with
  | nil => simp +contextual [eq_comm]
  | cons c r =>
    by_cases hc : c = commentMark
    · simp only [hc, if_true, reduceCtorEq, false_iff]
      rintro ⟨rfl, -, h⟩
      exact h rfl
    · simp only [hc, if_false, Option.some.injEq]
      constructor
      · rintro rfl
        exact ⟨rfl, List.cons_ne_nil c r, fun h => hc (Option.some.inj h)⟩
      · exact fun h => h.1

theorem mem_decode {t n : Text} :
    n ∈ decode t ↔ ∃ line ∈ pieces '\n' t, nameOfLine? line = some n := by
  rw [decode, SymbolSet.mem_ofList, List.mem_filterMap]

/-- **Reading is local to lines.** -/
theorem decode_append_cons (a b : Text) : decode (a ++ '\n' :: b) = decode a ∪ decode b := by
  ext n
  simp only [mem_decode, pieces_append_cons, List.mem_append, or_and_right, exists_or,
    SymbolSet.mem_union]

theorem mem_decode_lines {ls : List Text} {rest n : Text} :
    n ∈ decode (ls.flatMap (· ++ ['\n']) ++ rest) ↔ (∃ l ∈ ls, n ∈ decode l) ∨ n ∈ decode rest := by
  simp only [mem_decode, pieces_flatMap_concat, List.mem_append, List.mem_flatMap]
  constructor
  · rintro ⟨line, ⟨l, hl, hline⟩ | hline, hn⟩
    · exact .inl ⟨l, hl, line, hline, hn⟩
    · exact .inr ⟨line, hline, hn⟩
  · rintro (⟨l, hl, line, hline, hn⟩ | ⟨line, hline, hn⟩)
    · exact ⟨line, .inl ⟨l, hl, hline⟩, hn⟩
    · exact ⟨line, .inr hline, hn⟩

theorem decode_of_line {t : Text} (h : '\n' ∉ t) : decode t = .ofList (nameOfLine? t).toList := by
  rw [decode, pieces_of_not_mem h]
  cases hn : nameOfLine? t <;> simp [hn]

@[simp] theorem decode_nil : decode [] = ∅ := rfl

/-! ## Names -/

/-- Reading gives listable names only. -/
theorem listable_of_mem_decode {t n : Text} (h : n ∈ decode t) : Listable n := by
  obtain ⟨line, hline, hn⟩ := mem_decode.1 h
  obtain ⟨rfl, hne, hc⟩ := nameOfLine?_eq_some_iff.1 hn
  exact ⟨hne, Text.not_isBlank_head_trim line, Text.not_isBlank_getLast_trim line,
    fun hm => not_mem_of_mem_pieces hline ((Text.trim_infix line).subset hm), hc⟩

/-- A listable name is read back, and nothing else with it. -/
theorem mem_decode_of_listable {m n : Text} (h : Listable m) : n ∈ decode m ↔ n = m := by
  have hn : nameOfLine? m = some m :=
    nameOfLine?_eq_some_iff.2 ⟨Text.trim_eq_self_iff.2 ⟨h.head_not_blank, h.last_not_blank⟩,
      h.ne_nil, h.not_comment⟩
  rw [decode_of_line h.not_mem_line_feed, hn]
  simp

/-! ## Headers -/

theorem dropWhile_isBlank_comment {s : Text} (h : s.head? = some commentMark) :
    s.dropWhile isBlank = s := by
  refine dropWhile_eq_self_of_head fun c hc => ?_
  obtain rfl : commentMark = c := Option.some.inj (h.symm.trans (Option.mem_def.1 hc))
  decide

theorem nameOfLine?_comment {s : Text} (h : s.head? = some commentMark) : nameOfLine? s = none := by
  refine Option.eq_none_iff_forall_ne_some.2 fun n hn => ?_
  obtain ⟨rfl, hne, hc⟩ := nameOfLine?_eq_some_iff.1 hn
  obtain ⟨c, r, hcr⟩ := List.exists_cons_of_ne_nil hne
  refine hc ?_
  have hhead := congrArg List.head? (dropTrailing_append_rtakeWhile isBlank (s.dropWhile isBlank))
  change (Text.trim s ++ _).head? = _ at hhead
  rw [dropWhile_isBlank_comment h, h, hcr] at hhead
  rw [hcr]
  exact hhead

theorem decode_comment {s : Text} (h : s.head? = some commentMark) (hs : '\n' ∉ s) :
    decode s = ∅ := by
  rw [decode_of_line hs, nameOfLine?_comment h]
  rfl

/-- Of a comment that goes on over several lines reading takes what follows the first line. -/
theorem mem_decode_comment_append {s t n : Text} (h : s.head? = some commentMark) (hs : '\n' ∉ s) :
    n ∈ decode (s ++ t) ↔ n ∈ decode (t.dropWhile (· ≠ '\n')).tail := by
  have hhead (u : Text) : (s ++ u).head? = some commentMark := by
    rw [List.head?_append, h, Option.some_or]
  rcases not_mem_or_eq_append_cons '\n' t with ht | ⟨a, b, ha, rfl⟩
  · have hst : '\n' ∉ s ++ t := by simp [hs, ht]
    rw [decode_comment (hhead t) hst, dropWhile_ne_of_not_mem ht]
    simp
  · have hsa : '\n' ∉ s ++ a := by simp [hs, ha]
    rw [← List.append_assoc, decode_append_cons, decode_comment (hhead a) hsa,
      dropWhile_ne_append_cons ha]
    simp

/-- The part of the line about the library that stands before the library's name. -/
theorem runLine_eq (h : SnapshotHeader) :
    ∃ s : Text, h.runLine = s ++ h.targetName ∧ s.head? = some commentMark ∧ '\n' ∉ s := by
  refine ⟨_, rfl, rfl, ?_⟩
  cases h.platform <;> decide

theorem mem_decode_runLine {h : SnapshotHeader} {n : Text} :
    n ∈ decode h.runLine ↔ n ∈ decode h.overflow := by
  obtain ⟨s, hs, hmark, hline⟩ := runLine_eq h
  rw [hs, mem_decode_comment_append hmark hline]
  rfl

theorem decode_opening : ∀ l ∈ SnapshotHeader.opening, decode l = ∅ := by decide +kernel

theorem decode_closing (p : Platform) : ∀ l ∈ SnapshotHeader.closing p, decode l = ∅ := by
  cases p <;> decide +kernel

theorem mem_decode_header {h : SnapshotHeader} {n : Text} :
    (∃ l ∈ h.lines, n ∈ decode l) ↔ n ∈ decode h.overflow := by
  rw [← mem_decode_runLine]
  constructor
  · rintro ⟨l, hl, hn⟩
    simp only [SnapshotHeader.lines, List.mem_append, List.mem_singleton] at hl
    rcases hl with (hl | rfl) | hl
    · simp [decode_opening l hl] at hn
    · exact hn
    · simp [decode_closing h.platform l hl] at hn
  · exact fun hn => ⟨h.runLine, by simp [SnapshotHeader.lines], hn⟩

theorem overflow_eq_nil {h : SnapshotHeader} (hname : '\n' ∉ h.targetName) : h.overflow = [] := by
  rw [SnapshotHeader.overflow, dropWhile_ne_of_not_mem hname, List.tail_nil]

/-! ## Snapshots -/

/-- What is read from a snapshot: line by line the names, and what the name of the library makes. -/
theorem mem_decode_encode {s : SymbolSet} {h : SnapshotHeader} {n : Text} :
    n ∈ decode (encode s h) ↔ (∃ m ∈ s, n ∈ decode m) ∨ n ∈ decode h.overflow := by
  have hnames : n ∈ decode s.render ↔ ∃ m ∈ s, n ∈ decode m := by
    rw [SymbolSet.render, ← List.append_nil (s.toList.flatMap _), mem_decode_lines]
    simp [SymbolSet.mem_toList]
  rw [encode, SnapshotHeader.render, mem_decode_lines, mem_decode_header, hnames, or_comm]

/-- **The codec, exactly.** A set is read back as what its names give one by one, together with what
stands behind the first line feed in the name of the library. Without such a line feed it is read
back unchanged if and only if each of its names is listable. -/
theorem decode_encode (s : SymbolSet) (h : SnapshotHeader) :
    (∀ n, n ∈ decode (encode s h) ↔ (∃ m ∈ s, n ∈ decode m) ∨ n ∈ decode h.overflow) ∧
      ('\n' ∉ h.targetName → (decode (encode s h) = s ↔ ∀ n ∈ s, Listable n)) := by
  refine ⟨fun n => mem_decode_encode, fun hname => ⟨fun heq n hn => ?_, fun hall => ?_⟩⟩
  · exact listable_of_mem_decode (heq.symm ▸ hn)
  · ext n
    rw [mem_decode_encode, overflow_eq_nil hname, decode_nil]
    constructor
    · rintro (⟨m, hm, hn⟩ | hn)
      · exact (mem_decode_of_listable (hall m hm)).1 hn ▸ hm
      · exact absurd hn (SymbolSet.not_mem_empty n)
    · exact fun hn => .inl ⟨n, hn, (mem_decode_of_listable (hall n hn)).2 rfl⟩

end Snapshot

end ExportSurface
