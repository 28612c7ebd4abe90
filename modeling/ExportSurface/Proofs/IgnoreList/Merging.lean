import ExportSurface.IgnoreList.File

/-!
# Merging ignore lists

Whatever entries are offered to a list, in whatever pieces, of each symbol the first one stays.

* `IgnoreList.firsts` leaves out the entries whose symbol came before; `IgnoreList.mem_firsts_iff` says
  which entries stay.
* `IgnoreList.entries_pushAll`: this is what offering entries one after the other does, and
  `IgnoreList.entries_append` the same for the entries of another list.
* `IgnoreList.append_assoc`: of three lists it does not matter which two are merged first.
* `IgnoreList.entriesOfText?` are the entries that a text describes; the list of an ignore file is made
  of them.
-/

namespace ExportSurface.IgnoreList

variable {es : List IgnoreEntry} {e : IgnoreEntry} {s : Text} {l m : IgnoreList}

/-! ## Symbols -/

/-- Lists with the same entries have the same index, and are equal. -/
theorem ext_entries (h : l.entries = m.entries) : l = m := by
  have hindex : l.index = m.index := by
    ext s
    rw [l.indexed, m.indexed, h]
  cases l
  cases m
  congr

theorem mem_iff : s ∈ l ↔ ∃ e ∈ l.entries, e.symbol = s := List.mem_map

/-! ## First entries -/

/-- Of each symbol the first entry, in order. -/
def firsts : List IgnoreEntry → List IgnoreEntry
  | [] => []
  | e :: es => e :: (firsts es).filter fun d => d.symbol ≠ e.symbol

/-- An entry stays if it is the first one of its symbol. -/
theorem mem_firsts_iff :
    e ∈ firsts es ↔ es.find? (fun d => d.symbol = e.symbol) = some e := by
  induction es with
  | nil => simp [firsts]
  | cons d es ih =>
    rw [firsts, List.mem_cons, List.mem_filter, ih]
    by_cases hd : d.symbol = e.symbol
    · rw [List.find?_cons_of_pos (by simpa using hd)]
      simp [hd, eq_comm]
    · rw [List.find?_cons_of_neg (by simpa using hd)]
      have hne : e ≠ d := fun h => hd (h ▸ rfl)
      simp [hne, Ne.symm hd]

/-- A symbol of any entry is the symbol of one that stays. -/
theorem exists_mem_firsts_iff :
    (∃ e ∈ firsts es, e.symbol = s) ↔ ∃ e ∈ es, e.symbol = s := by
  constructor
  · rintro ⟨e, he, hs⟩
    exact ⟨e, List.mem_of_find?_eq_some (mem_firsts_iff.1 he), hs⟩
  · rintro ⟨e, he, hs⟩
    have hfound : (es.find? fun d => decide (d.symbol = s)).isSome :=
      List.find?_isSome.2 ⟨e, he, decide_eq_true hs⟩
    obtain ⟨d, hd⟩ := Option.isSome_iff_exists.1 hfound
    have hsymbol : d.symbol = s := by simpa using List.find?_some hd
    exact ⟨d, mem_firsts_iff.2 (hsymbol ▸ hd), hsymbol⟩

theorem nodup_firsts (es : List IgnoreEntry) : ((firsts es).map IgnoreEntry.symbol).Nodup := by
  induction es with
  | nil => exact List.nodup_nil
  | cons e es ih =>
    rw [firsts, List.map_cons, List.nodup_cons]
    refine ⟨fun he => ?_, ih.sublist (List.filter_sublist.map _)⟩
    obtain ⟨d, hd, hsymbol⟩ := List.mem_map.1 he
    exact absurd hsymbol (of_decide_eq_true (List.mem_filter.1 hd).2)

/-- Entries for different symbols all stay. -/
theorem firsts_eq_self (h : (es.map IgnoreEntry.symbol).Nodup) : firsts es = es := by
  induction es with
  | nil => rfl
  | cons e es ih =>
    obtain ⟨he, hes⟩ := List.nodup_cons.1 h
    rw [firsts, ih hes, List.filter_eq_self.2]
    exact fun d hd => decide_eq_true fun heq => he (heq ▸ List.mem_map_of_mem hd)

/-- Behind other entries stay the first ones of the symbols that those do not have. -/
theorem firsts_append (es ds : List IgnoreEntry) :
    firsts (es ++ ds) =
      firsts es ++ (firsts ds).filter fun d => ¬∃ e ∈ es, e.symbol = d.symbol := by
  induction es with
  | nil =>
    rw [List.filter_eq_self.2 (by simp)]
    rfl
  | cons e es ih =>
    rw [List.cons_append, firsts, firsts, ih, List.filter_append, List.filter_filter,
      List.cons_append]
    congr 2
    refine List.filter_congr fun d _ => ?_
    simp [eq_comm]

theorem firsts_firsts_append (es ds : List IgnoreEntry) :
    firsts (firsts es ++ ds) = firsts (es ++ ds) := by
  simp only [firsts_append, firsts_eq_self (nodup_firsts es), exists_mem_firsts_iff]

theorem firsts_append_firsts (es ds : List IgnoreEntry) :
    firsts (es ++ firsts ds) = firsts (es ++ ds) := by
  simp only [firsts_append, firsts_eq_self (nodup_firsts ds)]

/-! ## Offering entries -/

theorem entries_push (l : IgnoreList) (e : IgnoreEntry) :
    (l.push e).entries = firsts (l.entries ++ [e]) := by
  rw [firsts_append, firsts_eq_self l.distinct, push]
  split
  · next h =>
    have hnone : (firsts [e]).filter (fun d => ¬∃ e ∈ l.entries, e.symbol = d.symbol) = [] := by
      simpa [firsts] using mem_iff.1 h
    rw [hnone, List.append_nil]
  · next h =>
    have hall : (firsts [e]).filter (fun d => ¬∃ e ∈ l.entries, e.symbol = d.symbol) = [e] := by
      simpa [firsts] using mt mem_iff.2 h
    rw [hall]

/-- **Of the entries that are offered the first one of each symbol stays**, if there was none before. -/
theorem entries_pushAll (l : IgnoreList) (es : List IgnoreEntry) :
    (l.pushAll es).entries = firsts (l.entries ++ es) := by
  induction es generalizing l with
  | nil => rw [pushAll, List.foldl_nil, List.append_nil, firsts_eq_self l.distinct]
  | cons e es ih =>
    calc ((l.push e).pushAll es).entries
        = firsts (firsts (l.entries ++ [e]) ++ es) := by rw [ih, entries_push]
      _ = firsts (l.entries ++ e :: es) := by rw [firsts_firsts_append, List.append_assoc]; rfl

theorem entries_ofList (es : List IgnoreEntry) : (ofList es).entries = firsts es :=
  entries_pushAll empty es

theorem entries_append (l m : IgnoreList) : (l ++ m).entries = firsts (l.entries ++ m.entries) :=
  entries_pushAll l m.entries

/-- A symbol is listed after entries were offered if it was before or one of them has it. -/
theorem mem_pushAll {es : List IgnoreEntry} :
    s ∈ l.pushAll es ↔ s ∈ l ∨ ∃ e ∈ es, e.symbol = s := by
  rw [mem_iff, entries_pushAll, exists_mem_firsts_iff, mem_iff]
  simp only [List.mem_append, or_and_right, exists_or]

theorem mem_ofList : s ∈ ofList es ↔ ∃ e ∈ es, e.symbol = s := by
  rw [mem_iff, entries_ofList, exists_mem_firsts_iff]

theorem append_assoc (l m k : IgnoreList) : l ++ m ++ k = l ++ (m ++ k) := by
  apply ext_entries
  simp only [entries_append, firsts_firsts_append, firsts_append_firsts, List.append_assoc]

/-- Merging a list that is made of entries is offering them. -/
theorem entries_append_ofList (l : IgnoreList) (es : List IgnoreEntry) :
    (l ++ ofList es).entries = firsts (l.entries ++ es) := by
  rw [entries_append, entries_ofList, firsts_append_firsts]

theorem ofList_append (es ds : List IgnoreEntry) : ofList (es ++ ds) = ofList es ++ ofList ds := by
  apply ext_entries
  rw [entries_append_ofList, entries_ofList, entries_ofList, firsts_firsts_append]

/-! ## Entries of a text -/

/-- The entries that a text describes, in order, if it is an ignore file. -/
def entriesOfText? (t : Text) : Option (List IgnoreEntry) := (Toml.parse? t).bind entriesOfDocument?

theorem parse?_eq_map (t : Text) : parse? t = (entriesOfText? t).map ofList := rfl

end ExportSurface.IgnoreList
