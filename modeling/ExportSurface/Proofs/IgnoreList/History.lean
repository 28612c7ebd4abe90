import ExportSurface.Proofs.IgnoreList.Merging
import Mathlib.Data.Finset.Card

/-!
# Histories of ignore lists

However an ignore list came about, it holds of each symbol the entry that was offered first.

* `IgnoreList.History` is what was done to make a list, `History.list` the list and `History.offered`
  the entries that were offered on the way.
* `History.entries_list`: the entries of the list are the first ones that were offered.
* `History.list_exact` says what this means for what can be asked of a list.
-/

namespace ExportSurface.IgnoreList

/-- How an ignore list came about. -/
inductive History where
  /-- It was made of entries. -/
  | ofEntries (es : List IgnoreEntry)
  /-- An entry was offered to it. -/
  | push (h : History) (e : IgnoreEntry)
  /-- A list that has a history of its own was merged into it. -/
  | extend (h other : History)
  /-- A text was read, and what it gives was merged into it. -/
  | extendText (h : History) (t : Text)

/-- Merges what a text gives into a list. A text that is no ignore file leaves the list as it is. -/
def appendText (l : IgnoreList) (t : Text) : IgnoreList := ((parse? t).map (l ++ ·)).getD l

namespace History

/-- The list that a history ends with. -/
def list : History → IgnoreList
  | ofEntries es => .ofList es
  | push h e => h.list.push e
  | extend h other => h.list ++ other.list
  | extendText h t => h.list.appendText t

/-- All the entries that were offered, in order. A text that is no ignore file offers none. -/
def offered : History → List IgnoreEntry
  | ofEntries es => es
  | push h e => h.offered ++ [e]
  | extend h other => h.offered ++ other.offered
  | extendText h t => h.offered ++ (entriesOfText? t).getD []

end History

variable {l : IgnoreList} {t : Text}

theorem appendText_of_rejected (h : parse? t = none) : l.appendText t = l := by
  rw [appendText, h]
  rfl

theorem entries_appendText (l : IgnoreList) (t : Text) :
    (l.appendText t).entries = firsts (l.entries ++ (entriesOfText? t).getD []) := by
  rw [appendText, parse?_eq_map]
  cases entriesOfText? t with
  | none =>
    rw [Option.getD_none, List.append_nil, firsts_eq_self l.distinct]
    rfl
  | some es => exact entries_append_ofList l es

namespace History

/-- **Of each symbol the entry that was offered first stays.** -/
theorem entries_list (h : History) : h.list.entries = firsts h.offered := by
  induction h with
  | ofEntries es => exact entries_ofList es
  | push h e ih => rw [list, entries_push, ih, offered, firsts_firsts_append]
  | extend h other ih ih' =>
    rw [list, entries_append, ih, ih', offered, firsts_firsts_append, firsts_append_firsts]
  | extendText h t ih => rw [list, entries_appendText, ih, offered, firsts_firsts_append]

theorem mem_list_iff {h : History} {s : Text} : s ∈ h.list ↔ ∃ e ∈ h.offered, e.symbol = s := by
  rw [mem_iff, entries_list, exists_mem_firsts_iff]

theorem size_list (h : History) :
    h.list.size = (h.offered.map IgnoreEntry.symbol).toFinset.card := by
  have hsymbols : (h.offered.map IgnoreEntry.symbol).toFinset = h.list.symbols.toFinset := by
    ext s
    rw [List.mem_toFinset, List.mem_toFinset, List.mem_map]
    exact mem_list_iff.symm
  rw [hsymbols, symbols, List.toFinset_card_of_nodup h.list.distinct, List.length_map, size]

/-- A list is merged by offering its entries one after the other. -/
theorem list_foldl_push (h : History) (es : List IgnoreEntry) :
    (es.foldl push h).list = h.list.pushAll es := by
  induction es generalizing h with
  | nil => rfl
  | cons e es ih => exact ih (h.push e)

/-- **What a list holds, whatever was done to make it.** Its entries are all that were offered, in
order, of each symbol the first one with its own reason. So no symbol is listed twice, the index has
the symbols of the entries, and there are as many entries as symbols were offered. A text that is no
ignore file changes nothing, merging a list is offering its entries one after the other, and it does not
matter which of three lists are merged first. -/
theorem list_exact (h : History) :
    h.list.entries = firsts h.offered ∧
    (∀ e, e ∈ h.list.entries ↔ h.offered.find? (fun d => d.symbol = e.symbol) = some e) ∧
    (h.list.entries.map IgnoreEntry.symbol).Nodup ∧
    (∀ s, (h.list.contains s ↔ ∃ e ∈ h.list.entries, e.symbol = s) ∧
      (h.list.contains s ↔ ∃ e ∈ h.offered, e.symbol = s)) ∧
    h.list.size = (h.offered.map IgnoreEntry.symbol).toFinset.card ∧
    (∀ t, parse? t = none → (h.extendText t).list = h.list) ∧
    ∀ other : History, (h.extend other).list = (other.list.entries.foldl push h).list ∧
      ∀ last : History, ((h.extend other).extend last).list = (h.extend (other.extend last)).list := by
  refine ⟨h.entries_list, fun e => ?_, h.list.distinct, fun s => ?_, h.size_list,
    fun t => appendText_of_rejected, fun other => ⟨?_, fun last => ?_⟩⟩
  · rw [h.entries_list, mem_firsts_iff]
  · exact ⟨contains_iff.trans mem_iff, contains_iff.trans mem_list_iff⟩
  · rw [list_foldl_push]
    rfl
  · exact append_assoc h.list other.list last.list

/-- Two texts are read behind an entry that was offered. The first one adds a symbol and repeats one,
and the second one is no ignore file. -/
theorem list_exact_twoTexts :
    let h : History := (History.ofEntries [⟨"foo".toList, "first".toList⟩]).extendText
      ("[[ignore]]\nsymbol = \"bar\"\nreason = \"new\"\n".toList ++
        "[[ignore]]\nsymbol = \"foo\"\nreason = \"second\"\n".toList)
    let broken : Text := "[[ignore]]\nreason = \"no symbol\"\n".toList
    h.list.entries = [⟨"foo".toList, "first".toList⟩, ⟨"bar".toList, "new".toList⟩] ∧
      parse? broken = none ∧ (h.extendText broken).list = h.list := by
  intro h broken
  have hbroken : parse? broken = none := by decide +kernel
  obtain ⟨hentries, -, -, -, -, hrejected, -⟩ := list_exact h
  refine ⟨hentries.trans ?_, hbroken, hrejected broken hbroken⟩
  decide +kernel

end History

end ExportSurface.IgnoreList
