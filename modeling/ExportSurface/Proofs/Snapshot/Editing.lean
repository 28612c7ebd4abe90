import ExportSurface.Proofs.Snapshot.RoundTrip
import Mathlib.Logic.Relation

/-!
# Snapshots that were edited

People edit snapshots by hand and merge them line by line. What is read depends on the lines that list
a name, and not on their order, their number, their indentation or what stands between them. What was
read once is stable: it is written and read back without a change.

* `Snapshot.LineEdit` is one edit of the lines that is about no name, and
  `Snapshot.decode_join_of_lineEdit` says that reading does not see it.
* `Snapshot.decode_encode_decode`: what was read is read back after it was written.
* `Snapshot.decode_local_stable` puts this together.
-/

namespace ExportSurface.Snapshot

/-! ## Lines without names -/

/-- The line lists no name: it is blank, or a comment stands on it, indented or not. -/
inductive IsSilent : Text → Prop
  | blank {line : Text} (h : ∀ c ∈ line, isBlank c) : IsSilent line
  | comment {indent rest : Text} (h : ∀ c ∈ indent, isBlank c) (hrest : '\n' ∉ rest) :
      IsSilent (indent ++ commentMark :: rest)

theorem nameOfLine?_cons_of_isBlank {c : Char} (hc : isBlank c) (line : Text) :
    nameOfLine? (c :: line) = nameOfLine? line := by
  have htrim : Text.trim (c :: line) = Text.trim line := by
    rw [Text.trim, List.dropWhile_cons_of_pos hc, Text.trim]
  rw [nameOfLine?, htrim, nameOfLine?]

theorem decode_cons_of_isBlank {c : Char} (hc : isBlank c) (t : Text) :
    decode (c :: t) = decode t := by
  by_cases hfeed : c = '\n'
  · subst hfeed
    ext n
    rw [← List.nil_append ('\n' :: t), decode_append_cons, SymbolSet.mem_union, decode_nil]
    simp
  · obtain ⟨line, lines, ht⟩ := List.exists_cons_of_ne_nil (pieces_ne_nil '\n' t)
    rw [decode, decode, ht, pieces, if_neg hfeed, ht, List.filterMap_cons, List.filterMap_cons,
      nameOfLine?_cons_of_isBlank hc]

/-- Indentation does not matter, whatever blanks it is made of. -/
theorem decode_indent_append {indent : Text} (h : ∀ c ∈ indent, isBlank c) (t : Text) :
    decode (indent ++ t) = decode t := by
  induction indent with
  | nil => rfl
  | cons c indent ih =>
    have hindent : ∀ d ∈ indent, isBlank d := fun d hd => h d (List.mem_cons_of_mem c hd)
    rw [List.cons_append, decode_cons_of_isBlank (h c List.mem_cons_self), ih hindent]

theorem decode_of_isSilent {line : Text} (h : IsSilent line) : decode line = ∅ := by
  cases h with
  | blank h => rw [← List.append_nil line, decode_indent_append h, decode_nil]
  | comment h hrest =>
    rw [decode_indent_append h]
    exact decode_comment rfl (by simp [hrest, commentMark])

/-! ## Edits -/

/-- An edit of the lines of a snapshot that is about none of its names. -/
inductive LineEdit : List Text → List Text → Prop
  /-- The lines get another order. -/
  | permute {lines lines' : List Text} (h : lines.Perm lines') : LineEdit lines lines'
  /-- A line comes once more, at any place. -/
  | again {before after : List Text} {line : Text} (h : line ∈ before ++ after) :
      LineEdit (before ++ after) (before ++ line :: after)
  /-- A line gets another indentation. -/
  | indent {before after : List Text} {indent indent' line : Text} (h : ∀ c ∈ indent, isBlank c)
      (h' : ∀ c ∈ indent', isBlank c) :
      LineEdit (before ++ (indent ++ line) :: after) (before ++ (indent' ++ line) :: after)
  /-- A blank line or a comment comes in. -/
  | silent {before after : List Text} {line : Text} (h : IsSilent line) :
      LineEdit (before ++ after) (before ++ line :: after)

theorem mem_decode_join {ls : List Text} {n : Text} :
    n ∈ decode (join '\n' ls) ↔ ∃ l ∈ ls, n ∈ decode l := by
  induction ls with
  | nil => simp [join]
  | cons l ls ih =>
    cases ls with
    | nil => simp [join]
    | cons m ls =>
      rw [join, decode_append_cons, SymbolSet.mem_union, ih]
      simp

theorem mem_decode_join_insert {before after : List Text} {line n : Text} :
    n ∈ decode (join '\n' (before ++ line :: after)) ↔
      n ∈ decode (join '\n' (before ++ after)) ∨ n ∈ decode line := by
  simp only [mem_decode_join, List.mem_append, List.mem_cons]
  constructor
  · rintro ⟨l, hl | rfl | hl, hn⟩
    · exact .inl ⟨l, .inl hl, hn⟩
    · exact .inr hn
    · exact .inl ⟨l, .inr hl, hn⟩
  · rintro (⟨l, hl | hl, hn⟩ | hn)
    · exact ⟨l, .inl hl, hn⟩
    · exact ⟨l, .inr (.inr hl), hn⟩
    · exact ⟨line, .inr (.inl rfl), hn⟩

/-- **Reading does not see an edit that is about no name.** -/
theorem decode_join_of_lineEdit {lines lines' : List Text} (h : LineEdit lines lines') :
    decode (join '\n' lines) = decode (join '\n' lines') := by
  ext n
  cases h with
  | permute h =>
    rw [mem_decode_join, mem_decode_join]
    exact exists_congr fun l => and_congr_left fun _ => h.mem_iff
  | again h =>
    rw [mem_decode_join_insert]
    exact (or_iff_left_of_imp fun hn => mem_decode_join.2 ⟨_, h, hn⟩).symm
  | indent h h' =>
    rw [mem_decode_join_insert, mem_decode_join_insert, decode_indent_append h,
      decode_indent_append h']
  | silent h =>
    rw [mem_decode_join_insert, decode_of_isSilent h]
    simp

/-- What reading gives after any number of such edits, made or taken back. -/
theorem decode_join_of_lineEdits {lines lines' : List Text}
    (h : Relation.EqvGen LineEdit lines lines') :
    decode (join '\n' lines) = decode (join '\n' lines') := by
  induction h with
  | rel _ _ h => exact decode_join_of_lineEdit h
  | refl _ => rfl
  | symm _ _ _ ih => exact ih.symm
  | trans _ _ _ _ _ ih ih' => exact ih.trans ih'

/-! ## Reading what was written -/

/-- What was read is written and read back without a change. -/
theorem decode_encode_decode {h : SnapshotHeader} (hname : '\n' ∉ h.targetName) (t : Text) :
    decode (encode (decode t) h) = decode t := by
  ext n
  rw [mem_decode_encode, overflow_eq_nil hname, decode_nil]
  constructor
  · rintro (⟨m, hm, hn⟩ | hn)
    · rwa [(mem_decode_of_listable (listable_of_mem_decode hm)).1 hn]
    · exact absurd hn (SymbolSet.not_mem_empty n)
  · exact fun hn => .inl ⟨n, hn, (mem_decode_of_listable (listable_of_mem_decode hn)).2 rfl⟩

/-- **Reading is local to lines, and what it gives is stable.** Of two texts with a line feed between
them it gives what it gives of either, so no edit of the lines that is about no name is seen. If the name
of the library has no line feeds, what was read is read back after it was written, and a snapshot that
was written from it is written again as it was. -/
theorem decode_local_stable :
    (∀ a b : Text, decode (a ++ '\n' :: b) = decode a ∪ decode b) ∧
    (∀ lines lines' : List Text, Relation.EqvGen LineEdit lines lines' →
      decode (join '\n' lines) = decode (join '\n' lines')) ∧
    ∀ (t : Text) (h : SnapshotHeader), '\n' ∉ h.targetName →
      decode (encode (decode t) h) = decode t ∧
      ∀ x, x = encode (decode t) h → encode (decode x) h = x := by
  refine ⟨decode_append_cons, fun _ _ => decode_join_of_lineEdits, fun t h hname => ?_⟩
  have hread := decode_encode_decode hname t
  refine ⟨hread, ?_⟩
  rintro x rfl
  rw [hread]

/-- Two lines that change places, one of them indented; then a comment comes in, and a line a second
time. -/
theorem decode_local_stable_edited :
    let lines : List Text := ["\tb".toList, "a\r".toList]
    let lines' : List Text := ["a\r".toList, " # b".toList, "b".toList, "a\r".toList]
    let h : SnapshotHeader := ⟨"lib.so".toList, .elf⟩
    decode (join '\n' lines) = decode (join '\n' lines') ∧
      decode (encode (decode (join '\n' lines)) h) = decode (join '\n' lines) := by
  intro lines lines' h
  have hindented : LineEdit lines ["b".toList, "a\r".toList] :=
    @LineEdit.indent [] _ ['\t'] [] _ (List.forall_mem_singleton.2 rfl) (List.forall_mem_nil _)
  have hplaces : LineEdit ["b".toList, "a\r".toList] ["a\r".toList, "b".toList] :=
    .permute (.swap _ _ _)
  have hcomment : LineEdit ["a\r".toList, "b".toList] ["a\r".toList, " # b".toList, "b".toList] :=
    @LineEdit.silent [_] _ _
      (@IsSilent.comment [' '] _ (List.forall_mem_singleton.2 rfl) (by decide))
  have hagain : LineEdit ["a\r".toList, " # b".toList, "b".toList] lines' :=
    @LineEdit.again [_, _, _] [] _ (by decide)
  have hedits : Relation.EqvGen LineEdit lines lines' :=
    .trans _ _ _ (.rel _ _ hindented) (.trans _ _ _ (.rel _ _ hplaces)
      (.trans _ _ _ (.rel _ _ hcomment) (.rel _ _ hagain)))
  have hname : '\n' ∉ h.targetName := by decide
  exact ⟨decode_local_stable.2.1 _ _ hedits, (decode_local_stable.2.2 _ h hname).1⟩

end ExportSurface.Snapshot
