import ExportSurface.Proofs.IgnoreList.Merging
import ExportSurface.Proofs.Toml.Lines
import ExportSurface.Proofs.Toml.Tables

/-!
# Ignore files as they are written

The other side of reading ignore files: all the ways to write entries as an array of tables. Strings are
escaped in any way, a reason may be left out or come before the symbol, and blank lines and comments may
stand between any two lines.

* `IgnoreList.WritesFile w es` says that the text `w` writes the entries `es`, in order.
* `IgnoreList.entriesOfText?_of_writesFile`: the entries that such a text describes are those that were
  written.
* `IgnoreList.reads_written_files` puts this together with what merging does.
-/

namespace ExportSurface.IgnoreList

open Toml

/-! ## Texts that write entries -/

/-- An entry as it is written. The reason may be left out. -/
structure WrittenEntry where
  symbol : Text
  reason : Option Text

/-- The entry that was meant. A reason that was left out is empty. -/
def WrittenEntry.entry (e : WrittenEntry) : IgnoreEntry := ⟨e.symbol, e.reason.getD []⟩

/-- The key of the array of tables that holds the entries. -/
def entriesKey : Text := "ignore".toList

/-- The key of a symbol. -/
def symbolKey : Text := "symbol".toList

/-- The key of a reason. -/
def reasonKey : Text := "reason".toList

/-- Whole lines that say nothing. -/
inductive IsGap : Text → Prop
  | nil : IsGap []
  | cons {line g : Text} (hline : IsSilent line) (hg : IsGap g) : IsGap (line ++ '\n' :: g)

/-- The lines of an entry, from the header on. -/
inductive WritesEntry : Text → WrittenEntry → Prop
  | symbolOnly {g w s : Text} (hg : IsGap g) (hs : WritesText w s) :
      WritesEntry (elementLine entriesKey ++ (g ++ stringLine symbolKey w)) ⟨s, none⟩
  | symbolFirst {g g' w w' s r : Text} (hg : IsGap g) (hs : WritesText w s) (hg' : IsGap g')
      (hr : WritesText w' r) :
      WritesEntry (elementLine entriesKey ++ (g ++ (stringLine symbolKey w ++
        (g' ++ stringLine reasonKey w')))) ⟨s, some r⟩
  | reasonFirst {g g' w w' s r : Text} (hg : IsGap g) (hr : WritesText w r) (hg' : IsGap g')
      (hs : WritesText w' s) :
      WritesEntry (elementLine entriesKey ++ (g ++ (stringLine reasonKey w ++
        (g' ++ stringLine symbolKey w')))) ⟨s, some r⟩

/-- The text of an ignore file: entries, and lines that say nothing between and around them. -/
inductive WritesFile : Text → List WrittenEntry → Prop
  | nil : WritesFile [] []
  | silent {line w : Text} {es : List WrittenEntry} (hline : IsSilent line) (h : WritesFile w es) :
      WritesFile (line ++ '\n' :: w) es
  | entry {b w : Text} {e : WrittenEntry} {es : List WrittenEntry} (hb : WritesEntry b e)
      (h : WritesFile w es) : WritesFile (b ++ w) (e :: es)

variable {w w' b g : Text} {e : WrittenEntry} {es es' : List WrittenEntry} {d : Document}

/-- Two files, one behind the other, are one file. -/
theorem WritesFile.append (h : WritesFile w es) (h' : WritesFile w' es') :
    WritesFile (w ++ w') (es ++ es') := by
  induction h with
  | nil => exact h'
  | silent hline h ih =>
    rw [List.append_assoc]
    exact .silent hline ih
  | entry hb h ih =>
    rw [List.append_assoc]
    exact .entry hb ih

/-- **Every list of entries can be written.** -/
theorem exists_writesFile (es : List WrittenEntry) : ∃ w, WritesFile w es := by
  induction es with
  | nil => exact ⟨[], .nil⟩
  | cons e es ih =>
    obtain ⟨w, hw⟩ := ih
    obtain ⟨s, reason⟩ := e
    obtain ⟨ws, hs⟩ := exists_writesText s
    cases reason with
    | none => exact ⟨_, .entry (.symbolOnly .nil hs) hw⟩
    | some r =>
      obtain ⟨wr, hr⟩ := exists_writesText r
      exact ⟨_, .entry (.symbolFirst .nil hs .nil hr) hw⟩

/-- A file does not start with a byte order mark. -/
theorem WritesFile.dropByteOrderMark (h : WritesFile w es) : dropByteOrderMark w = w := by
  cases h with
  | nil => rfl
  | silent hline h => exact dropByteOrderMark_of_isSilent hline _
  | @entry b w e es hb h =>
    obtain ⟨r, rfl⟩ : ∃ r, b = '[' :: r := by
      cases hb <;> exact ⟨_, rfl⟩
    exact dropByteOrderMark_cons (by decide) _

/-! ## Reading them -/

theorem extend?_gap (hg : IsGap g) (r : Text) : d.extend? (g ++ r) = d.extend? r := by
  induction hg with
  | nil => rfl
  | cons hline hg ih =>
    rw [List.append_assoc, List.cons_append, Document.extend?_of_isSilent hline, ih]

theorem isBareKey_entriesKey : IsBareKey entriesKey := by decide

theorem isBareKey_symbolKey : IsBareKey symbolKey := by decide

theorem isBareKey_reasonKey : IsBareKey reasonKey := by decide

/-- The header of an entry, and the lines behind it that say nothing. -/
theorem extend?_header (hg : IsGap g) (elements : List Entries) (header : List Text) (r : Text) :
    (⟨arrayRoot entriesKey elements, header⟩ : Document).extend?
        (elementLine entriesKey ++ (g ++ r)) =
      (⟨arrayRoot entriesKey (elements ++ [[]]), [entriesKey]⟩ : Document).extend? r := by
  rw [Document.extend?_element isBareKey_entriesKey, Document.add?_element, Option.bind_some,
    extend?_gap hg]

/-- An assignment to a key of the last entry that this one does not have. -/
theorem extend?_string {key t : Text} {table : Entries} (hkey : IsBareKey key)
    (hfree : table.lookup key = none) (h : WritesText w t) (elements : List Entries) (r : Text) :
    (⟨arrayRoot entriesKey (elements ++ [table]), [entriesKey]⟩ : Document).extend?
        (stringLine key w ++ r) =
      (⟨arrayRoot entriesKey (elements ++ [table ++ [(key, .string t)]]), [entriesKey]⟩ :
        Document).extend? r := by
  rw [Document.extend?_assignment hkey h, Document.add?_assignment hfree, Option.bind_some]

/-- **The lines of an entry add a table that describes it.** -/
theorem extend?_entry (hb : WritesEntry b e) :
    ∃ table, entryOfTable? table = some e.entry ∧ ∀ elements header r,
      (⟨arrayRoot entriesKey elements, header⟩ : Document).extend? (b ++ r) =
        (⟨arrayRoot entriesKey (elements ++ [table]), [entriesKey]⟩ : Document).extend? r := by
  cases hb with
  | @symbolOnly g w s hg hs =>
    refine ⟨[(symbolKey, .string s)], rfl, fun elements header r => ?_⟩
    simp only [List.append_assoc]
    rw [extend?_header hg, extend?_string isBareKey_symbolKey rfl hs, List.nil_append]
  | @symbolFirst g g' w w' s r hg hs hg' hr =>
    refine ⟨[(symbolKey, .string s), (reasonKey, .string r)], rfl, fun elements header r => ?_⟩
    simp only [List.append_assoc]
    rw [extend?_header hg, extend?_string isBareKey_symbolKey rfl hs, extend?_gap hg',
      extend?_string isBareKey_reasonKey rfl hr]
    rfl
  | @reasonFirst g g' w w' s r hg hr hg' hs =>
    refine ⟨[(reasonKey, .string r), (symbolKey, .string s)], rfl, fun elements header r => ?_⟩
    simp only [List.append_assoc]
    rw [extend?_header hg, extend?_string isBareKey_reasonKey rfl hr, extend?_gap hg',
      extend?_string isBareKey_symbolKey rfl hs]
    rfl

/-- A file adds tables that describe its entries, behind those that are there. -/
theorem extend?_file (h : WritesFile w es) :
    ∃ added, added.mapM entryOfTable? = some (es.map WrittenEntry.entry) ∧ ∀ elements header,
      ∃ header', (⟨arrayRoot entriesKey elements, header⟩ : Document).extend? w =
        some ⟨arrayRoot entriesKey (elements ++ added), header'⟩ := by
  induction h with
  | nil =>
    refine ⟨[], rfl, fun elements header => ⟨header, ?_⟩⟩
    rw [Document.extend?_nil, List.append_nil]
  | silent hline h ih =>
    obtain ⟨added, hadded, hextend⟩ := ih
    refine ⟨added, hadded, fun elements header => ?_⟩
    rw [Document.extend?_of_isSilent hline]
    exact hextend elements header
  | entry hb h ih =>
    obtain ⟨table, htable, hentry⟩ := extend?_entry hb
    obtain ⟨added, hadded, hextend⟩ := ih
    refine ⟨table :: added, by simp [htable, hadded], fun elements header => ?_⟩
    obtain ⟨header', hrest⟩ := hextend (elements ++ [table]) [entriesKey]
    rw [List.append_assoc, List.singleton_append] at hrest
    exact ⟨header', (hentry elements header _).trans hrest⟩

theorem entriesOfDocument?_arrayRoot (elements : List Entries) :
    entriesOfDocument? (arrayRoot entriesKey elements) = elements.mapM entryOfTable? := by
  cases elements <;> rfl

/-- **The entries that a file describes are those that were written.** -/
theorem entriesOfText?_of_writesFile (h : WritesFile w es) :
    entriesOfText? w = some (es.map WrittenEntry.entry) := by
  obtain ⟨added, hadded, hextend⟩ := extend?_file h
  obtain ⟨header, hdocument⟩ := hextend [] []
  rw [entriesOfText?, parse?_eq, h.dropByteOrderMark]
  have hroot : ((⟨[], []⟩ : Document).extend? w).map Document.root =
      some (arrayRoot entriesKey added) := congrArg (Option.map Document.root) hdocument
  rw [hroot, Option.bind_some, entriesOfDocument?_arrayRoot, hadded]

/-- **Written ignore files are read as they were meant.** Whatever the symbols and reasons are, the
entries can be written, and every text that writes them is read as a list of them in which the first entry
of each symbol is kept. Two such texts, one behind the other, are read as the first list extended by the
second. -/
theorem reads_written_files :
    (∀ es, ∃ w, WritesFile w es) ∧
    (∀ w es, WritesFile w es →
      ∃ l, parse? w = some l ∧ l.entries = firsts (es.map WrittenEntry.entry)) ∧
    ∀ w w' es es', WritesFile w es → WritesFile w' es' →
      ∃ l l', parse? w = some l ∧ parse? w' = some l' ∧ parse? (w ++ w') = some (l ++ l') := by
  have hparse : ∀ {w es}, WritesFile w es → parse? w = some (ofList (es.map WrittenEntry.entry)) := by
    intro w es h
    rw [parse?_eq_map, entriesOfText?_of_writesFile h, Option.map_some]
  refine ⟨exists_writesFile, fun w es h => ⟨_, hparse h, entries_ofList _⟩, fun w w' es es' h h' => ?_⟩
  refine ⟨_, _, hparse h, hparse h', ?_⟩
  rw [hparse (h.append h'), List.map_append, ofList_append]

/-- Two ignore files: one with a comment, an escaped quote and a bell by its number, and one with the
last symbol of the first again. -/
def alarmFile : Text :=
  "# bells\n[[ignore]]\nreason = \"\\\"bell\\\"\"\nsymbol = \"ring\\u0007\"\n\n[[ignore]]\nsymbol = \"#mute\"\n".toList

@[inherit_doc alarmFile]
def muteFile : Text := "[[ignore]]\nsymbol = \"#mute\"\nreason = \"again\"\n".toList

theorem reads_written_files_alarm :
    WritesFile alarmFile [⟨"ring\x07".toList, some "\"bell\"".toList⟩, ⟨"#mute".toList, none⟩] ∧
    WritesFile muteFile [⟨"#mute".toList, some "again".toList⟩] ∧
    (∃ l, parse? alarmFile = some l ∧
      l.entries = [⟨"ring\x07".toList, "\"bell\"".toList⟩, ⟨"#mute".toList, []⟩]) ∧
    ∃ l l', parse? alarmFile = some l ∧ parse? muteFile = some l' ∧
      parse? (alarmFile ++ muteFile) = some (l ++ l') := by
  have hcomment : IsSilent "# bells".toList :=
    .comment (List.forall_mem_nil _) (List.all_eq_true.1 (by decide))
  have hblank : IsSilent [] := .blank (List.forall_mem_nil _)
  have hself (t : Text) (ht : t.all fun c => c ≠ '"' ∧ c ≠ '\\' ∧ isPlain c) : WritesText t t :=
    writesText_self fun c hc => of_decide_eq_true (List.all_eq_true.1 ht c hc)
  have hquote : WritesText ['\\', '"'] ['"'] := .letter (by decide) .nil
  have hbell : WritesHex "0007".toList (Char.toNat '\x07') := writesHex_of_lt (by decide : 7 < 0x80)
  have hring : WritesText "ring\\u0007".toList "ring\x07".toList :=
    (hself "ring".toList (by decide)).append (.number hbell rfl .nil)
  have hreason : WritesText "\\\"bell\\\"".toList "\"bell\"".toList :=
    hquote.append ((hself "bell".toList (by decide)).append hquote)
  have hmute := hself "#mute".toList (by decide)
  have hagain := hself "again".toList (by decide)
  have hfile : WritesFile alarmFile
      [⟨"ring\x07".toList, some "\"bell\"".toList⟩, ⟨"#mute".toList, none⟩] :=
    .silent hcomment (.entry (.reasonFirst .nil hreason .nil hring)
      (.silent hblank (.entry (.symbolOnly .nil hmute) .nil)))
  have hfile' : WritesFile muteFile [⟨"#mute".toList, some "again".toList⟩] :=
    .entry (.symbolFirst .nil hmute .nil hagain) .nil
  exact ⟨hfile, hfile', reads_written_files.2.1 _ _ hfile,
    reads_written_files.2.2 _ _ _ _ hfile hfile'⟩

end ExportSurface.IgnoreList
