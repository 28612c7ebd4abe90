import ExportSurface.Text.Basic

/-!
# Sets of symbol names

A set of names is kept as its strictly increasing list, so a set has one representation and every
text written from it is determined by its members. Names are ordered by their code points.

* `SymbolSet.mem_insert`, `mem_erase`, `mem_sdiff`, `mem_union` and `mem_ofList` say what each
  operation does to membership.
* `SymbolSet.ext`: sets with the same members are equal.
-/

namespace ExportSurface

/-! ## The order of names -/

namespace Text

theorem lt_trans {a b c : Text} (h₁ : a < b) (h₂ : b < c) : a < c := List.lt_trans h₁ h₂

theorem lt_irrefl (a : Text) : ¬a < a := List.lt_irrefl a

theorem lt_asymm {a b : Text} (h : a < b) : ¬b < a := fun h' => lt_irrefl a (lt_trans h h')

/-- Of two different names one comes first. -/
theorem lt_or_eq_or_gt (a b : Text) : a < b ∨ a = b ∨ b < a := by
  by_cases h₁ : a < b
  · exact .inl h₁
  · by_cases h₂ : b < a
    · exact .inr (.inr h₂)
    · exact .inr (.inl (List.le_antisymm h₂ h₁))

end Text

/-! ## The type -/

/-- A finite set of symbol names. -/
structure SymbolSet where
  /-- The names, in increasing order. -/
  toList : List Text
  increasing : toList.Pairwise (· < ·)
  deriving DecidableEq

namespace SymbolSet

instance : Membership Text SymbolSet := ⟨fun s n => n ∈ s.toList⟩

instance (n : Text) (s : SymbolSet) : Decidable (n ∈ s) :=
  Text.decidableMem n s.toList

theorem mem_toList {n : Text} {s : SymbolSet} : n ∈ s.toList ↔ n ∈ s := .rfl

/-- The set without members. -/
def empty : SymbolSet := ⟨[], .nil⟩

instance : EmptyCollection SymbolSet := ⟨empty⟩
instance : Inhabited SymbolSet := ⟨empty⟩

/-- Whether the set has no members. -/
def isEmpty (s : SymbolSet) : Bool := s.toList.isEmpty

/-- The number of members. -/
def size (s : SymbolSet) : Nat := s.toList.length

/-! ## Insertion -/

/-- Puts a name at its place in an increasing list that may have it already. -/
def place (n : Text) : List Text → List Text
  | [] => [n]
  | m :: l => if n < m then n :: m :: l else if n = m then m :: l else m :: place n l

theorem mem_place {n m : Text} {l : List Text} : m ∈ place n l ↔ m = n ∨ m ∈ l := by
  induction l with
  | nil => simp [place]
  | cons a l ih =>
    unfold place
    split
    · simp
    · split
      · next h => subst h; simp
      · simp only [List.mem_cons, ih]
        exact or_left_comm

theorem place_increasing {n : Text} {l : List Text} (h : l.Pairwise (· < ·)) :
    (place n l).Pairwise (· < ·) := by
  induction l with
  | nil => simp [place]
  | cons a l ih =>
    obtain ⟨ha, hl⟩ := List.pairwise_cons.1 h
    unfold place
    split
    · next hn =>
      refine List.pairwise_cons.2 ⟨fun x hx => ?_, h⟩
      rcases List.mem_cons.1 hx with rfl | hx
      · exact hn
      · exact Text.lt_trans hn (ha x hx)
    · split
      · exact h
      · next hn hne =>
        refine List.pairwise_cons.2 ⟨fun x hx => ?_, ih hl⟩
        rcases mem_place.1 hx with rfl | hx
        · rcases Text.lt_or_eq_or_gt x a with h' | h' | h'
          · exact absurd h' hn
          · exact absurd h' hne
          · exact h'
        · exact ha x hx

/-- Adds a name. -/
def insert (n : Text) (s : SymbolSet) : SymbolSet := ⟨place n s.toList, place_increasing s.increasing⟩

/-- The names of a list. -/
def ofList (l : List Text) : SymbolSet := l.foldl (fun s n => s.insert n) empty

/-! ## Removal -/

/-- Keeps the names on which `p` holds. -/
def filter (p : Text → Bool) (s : SymbolSet) : SymbolSet :=
  ⟨s.toList.filter p, s.increasing.filter p⟩

/-- Takes a name away. -/
def erase (n : Text) (s : SymbolSet) : SymbolSet := s.filter (· ≠ n)

/-- The members of `s` that are not in `t`. -/
def sdiff (s t : SymbolSet) : SymbolSet := s.filter (· ∉ t)

instance : SDiff SymbolSet := ⟨sdiff⟩

/-- The members of either set. -/
def union (s t : SymbolSet) : SymbolSet := t.toList.foldl (fun s n => s.insert n) s

instance : Union SymbolSet := ⟨union⟩

/-! ## Membership -/

@[simp] theorem not_mem_empty (n : Text) : n ∉ (∅ : SymbolSet) := List.not_mem_nil

@[simp] theorem mem_insert {n m : Text} {s : SymbolSet} : m ∈ s.insert n ↔ m = n ∨ m ∈ s :=
  mem_place

@[simp] theorem mem_filter {n : Text} {p : Text → Bool} {s : SymbolSet} :
    n ∈ s.filter p ↔ n ∈ s ∧ p n := List.mem_filter

@[simp] theorem mem_erase {n m : Text} {s : SymbolSet} : m ∈ s.erase n ↔ m ∈ s ∧ m ≠ n := by
  simp [erase]

@[simp] theorem mem_sdiff {n : Text} {s t : SymbolSet} : n ∈ s \ t ↔ n ∈ s ∧ n ∉ t := by
  change n ∈ s.filter _ ↔ _
  simp

theorem mem_foldl_insert {n : Text} (l : List Text) (s : SymbolSet) :
    n ∈ l.foldl (fun s n => s.insert n) s ↔ n ∈ l ∨ n ∈ s := by
  induction l generalizing s with
  | nil => simp
  | cons a l ih =>
    rw [List.foldl_cons, ih, mem_insert, List.mem_cons]
    exact or_left_comm.trans or_assoc.symm

@[simp] theorem mem_ofList {n : Text} {l : List Text} : n ∈ ofList l ↔ n ∈ l :=
  (mem_foldl_insert l ∅).trans (by simp)

@[simp] theorem mem_union {n : Text} {s t : SymbolSet} : n ∈ s ∪ t ↔ n ∈ s ∨ n ∈ t :=
  (mem_foldl_insert t.toList s).trans or_comm

/-! ## Equality -/

/-- Increasing lists with the same members are equal. -/
theorem eq_of_increasing {l₁ l₂ : List Text} (h₁ : l₁.Pairwise (· < ·))
    (h₂ : l₂.Pairwise (· < ·)) (h : ∀ n, n ∈ l₁ ↔ n ∈ l₂) : l₁ = l₂ := by
  induction l₁ generalizing l₂ with
  | nil =>
    cases l₂ with
    | nil => rfl
    | cons b l₂ => simpa using h b
  | cons a l₁ ih =>
    cases l₂ with
    | nil => simpa using h a
    | cons b l₂ =>
      obtain ⟨ha, hl₁⟩ := List.pairwise_cons.1 h₁
      obtain ⟨hb, hl₂⟩ := List.pairwise_cons.1 h₂
      have hab : a = b := by
        rcases List.mem_cons.1 ((h a).1 List.mem_cons_self) with hab | hab
        · exact hab
        · rcases List.mem_cons.1 ((h b).2 List.mem_cons_self) with hba | hba
          · exact hba.symm
          · exact absurd (hb a hab) (Text.lt_asymm (ha b hba))
      subst hab
      congr 1
      refine ih hl₁ hl₂ fun n => ⟨fun hn => ?_, fun hn => ?_⟩
      · rcases List.mem_cons.1 ((h n).1 (List.mem_cons_of_mem _ hn)) with rfl | h'
        · exact absurd (ha n hn) (Text.lt_irrefl n)
        · exact h'
      · rcases List.mem_cons.1 ((h n).2 (List.mem_cons_of_mem _ hn)) with rfl | h'
        · exact absurd (hb n hn) (Text.lt_irrefl n)
        · exact h'

@[ext] theorem ext {s t : SymbolSet} (h : ∀ n, n ∈ s ↔ n ∈ t) : s = t := by
  obtain ⟨l₁, h₁⟩ := s
  obtain ⟨l₂, h₂⟩ := t
  obtain rfl : l₁ = l₂ := eq_of_increasing h₁ h₂ h
  rfl

theorem isEmpty_iff {s : SymbolSet} : s.isEmpty ↔ s = ∅ := by
  obtain ⟨l, h⟩ := s
  cases l with
  | nil => exact ⟨fun _ => rfl, fun _ => rfl⟩
  | cons a l =>
    refine ⟨fun h => by simp [isEmpty] at h, fun h => ?_⟩
    have : a ∈ (∅ : SymbolSet) := h ▸ (List.mem_cons_self : a ∈ a :: l)
    exact absurd this (not_mem_empty a)

/-! ## Text form -/

/-- The names, one to a line, each line ended by a line feed. -/
def render (s : SymbolSet) : Text := s.toList.flatMap (· ++ ['\n'])

end SymbolSet

end ExportSurface
