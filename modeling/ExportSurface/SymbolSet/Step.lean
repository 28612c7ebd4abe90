import ExportSurface.Comparison.Document

/-!
# Steps on a set of names

A set of names is changed step by step, and each step has an answer. Inserting and removing a name
answer whether that changed the set; taking all names out answers with the names; and a JSON text that
holds no set is refused, and leaves the set as it is.

* `SymbolSet.has` searches the increasing list of the names. `has_iff`: what it finds are the members.
* `SymbolSet.step` is one step, with its answer and the set after it.
-/

namespace ExportSurface.SymbolSet

/-! ## Searching -/

/-- Whether an increasing list has a name. The search ends where the name would have its place. -/
def search (n : Text) : List Text → Bool
  | [] => false
  | m :: l => if n < m then false else if n = m then true else search n l

/-- Whether the set has a name. -/
def has (s : SymbolSet) (n : Text) : Bool := search n s.toList

theorem search_iff {n : Text} {l : List Text} (h : l.Pairwise (· < ·)) : search n l ↔ n ∈ l := by
  induction l with
  | nil => simp [search]
  | cons m l ih =>
    obtain ⟨hm, hl⟩ := List.pairwise_cons.1 h
    unfold search
    split
    · next hlt =>
      have hn : n ∉ m :: l := fun hn => by
        rcases List.mem_cons.1 hn with rfl | hn
        · exact Text.lt_irrefl n hlt
        · exact Text.lt_asymm hlt (hm n hn)
      simpa using hn
    · split
      · next heq => simp [heq]
      · next hne => simp [ih hl, hne]

theorem has_iff {s : SymbolSet} {n : Text} : s.has n ↔ n ∈ s := search_iff s.increasing

/-! ## Steps -/

/-- A change of a set of names. -/
inductive Step where
  | insert (n : Text)
  | remove (n : Text)
  /-- The set of the given names takes the place of the set. -/
  | replace (names : List Text)
  /-- All names are taken out. -/
  | drain
  /-- The set that a JSON text holds takes the place of the set. -/
  | readJson (t : Text)
  deriving DecidableEq, Repr

/-- The answer to a step. -/
inductive Answer where
  | done
  /-- Whether the set was changed. -/
  | changed (b : Bool)
  /-- The names that were taken out, in increasing order. -/
  | names (l : List Text)
  /-- The text holds no set of names. -/
  | refused
  deriving DecidableEq, Repr

/-- A step on a set, with its answer. -/
def step (s : SymbolSet) : Step → Answer × SymbolSet
  | .insert n => (.changed !(s.has n), s.insert n)
  | .remove n => (.changed (s.has n), s.erase n)
  | .replace names => (.done, ofList names)
  | .drain => (.names s.toList, ∅)
  | .readJson t =>
    match parseJson? t with
    | some u => (.done, u)
    | none => (.refused, s)

end ExportSurface.SymbolSet
