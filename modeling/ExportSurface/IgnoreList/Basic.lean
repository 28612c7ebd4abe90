import ExportSurface.SymbolSet

/-!
# Ignore lists

Some exports come and go with the toolchain and not with the library. An ignore list names them,
each with the reason why it is ignored. A symbol is listed once: the first entry offered for it
stays. Whether a symbol is listed is looked up in an index of the symbols.
-/

namespace ExportSurface

/-- An ignored symbol and why it is ignored. -/
structure IgnoreEntry where
  symbol : Text
  reason : Text
  deriving DecidableEq, Repr, Inhabited

/-- Entries for different symbols, in the order in which they were first offered, with an index of
their symbols. -/
structure IgnoreList where
  entries : List IgnoreEntry
  index : SymbolSet
  distinct : (entries.map IgnoreEntry.symbol).Nodup
  indexed : ∀ n, n ∈ index ↔ n ∈ entries.map IgnoreEntry.symbol
  deriving DecidableEq

namespace IgnoreList

/-- The list that ignores nothing. -/
def empty : IgnoreList := ⟨[], ∅, .nil, by simp⟩

instance : EmptyCollection IgnoreList := ⟨empty⟩
instance : Inhabited IgnoreList := ⟨empty⟩

/-- The ignored symbols, in order. -/
def symbols (l : IgnoreList) : List Text := l.entries.map IgnoreEntry.symbol

instance : Membership Text IgnoreList := ⟨fun l n => n ∈ l.symbols⟩

/-- Whether the index has the symbol. -/
def contains (l : IgnoreList) (n : Text) : Bool := n ∈ l.index

theorem contains_iff {l : IgnoreList} {n : Text} : l.contains n ↔ n ∈ l :=
  decide_eq_true_iff.trans (l.indexed n)

instance (n : Text) (l : IgnoreList) : Decidable (n ∈ l) := decidable_of_iff _ contains_iff

/-- The number of ignored symbols. -/
def size (l : IgnoreList) : Nat := l.entries.length

/-- Whether nothing is ignored. -/
def isEmpty (l : IgnoreList) : Bool := l.entries.isEmpty

/-- Offers an entry at the end of the list; it is not taken if its symbol is listed. -/
def push (l : IgnoreList) (e : IgnoreEntry) : IgnoreList :=
  if h : e.symbol ∈ l then l
  else
    { entries := l.entries ++ [e]
      index := l.index.insert e.symbol
      distinct := by
        rw [List.map_append, List.nodup_append]
        refine ⟨l.distinct, by simp, fun a ha b hb hab => h ?_⟩
        obtain rfl : b = e.symbol := by simpa using hb
        exact hab ▸ ha
      indexed := fun n => by
        rw [SymbolSet.mem_insert, l.indexed, List.map_append, List.mem_append, or_comm,
          List.map_singleton, List.mem_singleton] }

/-- Offers entries one after the other. -/
def pushAll (l : IgnoreList) (es : List IgnoreEntry) : IgnoreList := es.foldl push l

/-- Offers the entries of another list. -/
def append (l m : IgnoreList) : IgnoreList := l.pushAll m.entries

instance : Append IgnoreList := ⟨append⟩

/-- The list of the given entries, of each symbol the first. -/
def ofList (es : List IgnoreEntry) : IgnoreList := empty.pushAll es

end IgnoreList

end ExportSurface
