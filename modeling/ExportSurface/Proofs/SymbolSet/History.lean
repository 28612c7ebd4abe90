import ExportSurface.Proofs.Comparison.Printing
import ExportSurface.Proofs.Text.Order
import ExportSurface.SymbolSet.Step
import Mathlib.Data.Finset.Card

/-!
# Histories of sets of names

However a set of names came about, it is the finite set that the same steps make of a finite set, kept
as the one increasing list of its members.

* `SymbolSet.Step.act` is what a step does to a finite set, and `SymbolSet.members_step` that a step on
  a set of names does the same to its members.
* `SymbolSet.History` is what was done to come to a set, `History.set` is the set, and
  `History.members` is the finite set.
* `History.set_exact` says what this means for what can be asked of a set.
-/

namespace ExportSurface.SymbolSet

variable {s u : SymbolSet} {n : Text} {t : Text}

/-! ## Members -/

/-- The members of a set, as a finite set. -/
def members (s : SymbolSet) : Finset Text := s.toList.toFinset

@[simp] theorem mem_members : n ∈ s.members ↔ n ∈ s := List.mem_toFinset

theorem members_ofList (l : List Text) : (ofList l).members = l.toFinset := by
  ext n
  rw [mem_members, mem_ofList, List.mem_toFinset]

theorem members_inj : s.members = u.members ↔ s = u := by
  refine ⟨fun h => ext fun n => ?_, congrArg members⟩
  rw [← mem_members, h, mem_members]

theorem nodup_toList (s : SymbolSet) : s.toList.Nodup := by
  refine s.increasing.imp fun {a b} hlt => ?_
  rintro rfl
  exact Text.lt_irrefl a hlt

theorem card_members (s : SymbolSet) : s.members.card = s.size :=
  List.toFinset_card_of_nodup s.nodup_toList

/-! ## Steps -/

/-- The names that a JSON text lists, if it is an array of strings. -/
def namesOfJson? (t : Text) : Option (List Text) := (Json.parse? t).bind Json.texts?

theorem namesOfJson?_eq_some_iff {l : List Text} : namesOfJson? t = some l ↔ Json.Lists t l := by
  rw [← Json.parse?_eq_ofTexts_iff, namesOfJson?, Option.bind_eq_some_iff]
  simp only [Json.texts?_eq_some_iff, exists_eq_right]

theorem namesOfJson?_eq_none_iff : namesOfJson? t = none ↔ ∀ l, ¬Json.Lists t l := by
  simp only [Option.eq_none_iff_forall_ne_some, ne_eq, namesOfJson?_eq_some_iff]

theorem parseJson?_eq_map (t : Text) : parseJson? t = (namesOfJson? t).map ofList := by
  rw [parseJson?, namesOfJson?]
  cases Json.parse? t <;> rfl

/-- What a step makes of a finite set of names. -/
def Step.act (m : Finset Text) : Step → Finset Text
  | .insert n => Insert.insert n m
  | .remove n => m.erase n
  | .replace names => names.toFinset
  | .drain => ∅
  | .readJson t => ((namesOfJson? t).map List.toFinset).getD m

theorem step_of_accepted {l : List Text} (h : namesOfJson? t = some l) :
    s.step (.readJson t) = (.done, ofList l) := by
  rw [step, parseJson?_eq_map, h]
  rfl

theorem step_of_rejected (h : namesOfJson? t = none) : s.step (.readJson t) = (.refused, s) := by
  rw [step, parseJson?_eq_map, h]
  rfl

/-- **A step does to the members what it does to a finite set.** -/
theorem members_step (s : SymbolSet) (x : Step) : (s.step x).2.members = x.act s.members := by
  cases x with
  | insert n =>
    ext m
    rw [mem_members, Step.act, Finset.mem_insert, mem_members]
    exact mem_insert
  | remove n =>
    ext m
    rw [mem_members, Step.act, Finset.mem_erase, mem_members]
    exact mem_erase.trans and_comm
  | replace names => exact members_ofList names
  | drain => rfl
  | readJson t =>
    cases h : namesOfJson? t with
    | none =>
      rw [step_of_rejected h, Step.act, h]
      rfl
    | some l =>
      rw [step_of_accepted h, Step.act, h]
      exact members_ofList l

/-! ## Histories -/

/-- What was done to come to a set: it was made of names, and then steps were taken. -/
structure History where
  initial : List Text
  steps : List Step

namespace History

/-- The set that a history ends with. -/
def set (h : History) : SymbolSet := h.steps.foldl (fun s x => (s.step x).2) (ofList h.initial)

/-- The finite set that the same steps make of the same names. -/
def members (h : History) : Finset Text := h.steps.foldl Step.act h.initial.toFinset

/-- The history with one more step. -/
def after (h : History) (x : Step) : History := { h with steps := h.steps ++ [x] }

theorem members_after (h : History) (x : Step) : (h.after x).members = x.act h.members := by
  rw [members, after, List.foldl_append, List.foldl_cons, List.foldl_nil, members]

theorem members_foldl_step (s : SymbolSet) (xs : List Step) :
    (xs.foldl (fun s x => (s.step x).2) s).members = xs.foldl Step.act s.members := by
  induction xs generalizing s with
  | nil => rfl
  | cons x xs ih => rw [List.foldl_cons, ih, members_step, List.foldl_cons]

/-- **The set of a history has the members that the steps make.** -/
theorem members_set (h : History) : h.set.members = h.members := by
  rw [set, members_foldl_step, members_ofList, members]

theorem mem_set_iff {h : History} : n ∈ h.set ↔ n ∈ h.members := by
  rw [← mem_members, members_set]

theorem set_eq_iff {h h' : History} : h.set = h'.set ↔ ∀ n, n ∈ h.members ↔ n ∈ h'.members := by
  rw [← members_inj, members_set, members_set, Finset.ext_iff]

/-- The answers to inserting and removing a name tell whether that changes its membership. -/
theorem answer_step_of_name (h : History) (n : Text) :
    ∀ x ∈ [Step.insert n, .remove n],
      (h.set.step x).1 = .changed (decide (¬(n ∈ (h.after x).members ↔ n ∈ h.members))) := by
  have hhas : h.set.has n = decide (n ∈ h.members) := by
    rw [Bool.eq_iff_iff, has_iff, mem_set_iff, decide_eq_true_iff]
  intro x hx
  rcases List.mem_cons.1 hx with rfl | hx
  · rw [step, members_after, Step.act, hhas]
    simp
  · obtain rfl := List.mem_singleton.1 hx
    rw [step, members_after, Step.act, hhas]
    simp

/-- The list shows the members of a history in the order of their code points, which is that of their
bytes. -/
structure IsListOf (h : History) (l : List Text) : Prop where
  mem_iff : ∀ n, n ∈ l ↔ n ∈ h.members
  codePoints : l.Pairwise fun a b => a.codePoints < b.codePoints
  bytes : l.Pairwise fun a b => Utf8.encode a < Utf8.encode b

theorem isListOf_toList (h : History) : h.IsListOf h.set.toList where
  mem_iff _ := mem_toList.trans mem_set_iff
  codePoints := h.set.increasing.imp Text.codePoints_lt_codePoints
  bytes := h.set.increasing.imp Utf8.encode_lt_encode

/-- A JSON text gives the set of the names that it lists. -/
theorem readJson_of_lists (h : History) {l : List Text} (hl : Json.Lists t l) :
    h.set.step (.readJson t) = (.done, ofList l) ∧
      (h.after (.readJson t)).members = l.toFinset := by
  have hnames := namesOfJson?_eq_some_iff.2 hl
  refine ⟨step_of_accepted hnames, ?_⟩
  rw [members_after, Step.act, hnames]
  rfl

/-- A JSON text that is no list of names changes nothing. -/
theorem readJson_of_not_lists (h : History) (hl : ∀ l, ¬Json.Lists t l) :
    h.set.step (.readJson t) = (.refused, h.set) ∧ (h.after (.readJson t)).members = h.members := by
  have hnames := namesOfJson?_eq_none_iff.2 hl
  refine ⟨step_of_rejected hnames, ?_⟩
  rw [members_after, Step.act, hnames]
  rfl

/-- **What a set is, whatever was done to come to it.** It has the members that the same steps make of a
finite set, and they are listed in one order, that of their code points, by whoever goes through the
set, prints it, writes it as JSON or takes all names out. Inserting and removing a name answer whether
the set has got or lost it, a difference has the members that the other set does not have, and sets
are equal if they have the same members, whatever their histories. A JSON text that lists names gives
the set of them, and any other text is refused and changes nothing. -/
theorem set_exact (h : History) :
    (∀ n, h.set.has n ↔ n ∈ h.members) ∧ h.set.size = h.members.card ∧
    (h.set.isEmpty ↔ h.members = ∅) ∧
    (∃ l, h.IsListOf l ∧ h.set.toList = l ∧ h.set.step .drain = (.names l, ∅) ∧
      h.set.render = l.flatMap (· ++ ['\n']) ∧
      h.set.toJson.compact = '[' :: join ',' (l.map fun n => Json.quote (some n)) ++ [']']) ∧
    (∀ n, ∀ x ∈ [Step.insert n, .remove n],
      (h.set.step x).1 = .changed (decide (¬(n ∈ (h.after x).members ↔ n ∈ h.members)))) ∧
    (∀ (u : SymbolSet) (n : Text), n ∈ h.set \ u ↔ n ∈ h.members ∧ n ∉ u) ∧
    (∀ h' : History, h.set = h'.set ↔ ∀ n, n ∈ h.members ↔ n ∈ h'.members) ∧
    (∀ t l, Json.Lists t l → h.set.step (.readJson t) = (.done, ofList l) ∧
      (h.after (.readJson t)).members = l.toFinset) ∧
    ∀ t, (∀ l, ¬Json.Lists t l) → h.set.step (.readJson t) = (.refused, h.set) ∧
      (h.after (.readJson t)).members = h.members := by
  refine ⟨fun n => has_iff.trans mem_set_iff, ?_, ?_, ⟨_, h.isListOf_toList, rfl, rfl, rfl, ?_⟩,
    h.answer_step_of_name, fun u n => ?_, fun h' => set_eq_iff, fun t l => h.readJson_of_lists,
    fun t => h.readJson_of_not_lists⟩
  · rw [← card_members, members_set]
  · rw [isEmpty_iff, ← members_inj, members_set]
    rfl
  · rw [toJson, Json.ofTexts, Json.compact, Json.compactItems_eq_map, List.map_map]
    rfl
  · rw [mem_sdiff, mem_set_iff]

/-- A name is inserted twice and one is removed, and then an array that does not hold strings only is
read, and an empty one. -/
theorem set_exact_rereadTexts :
    let h : History := ⟨["b".toList, "a".toList, "b".toList], [.insert "\uFFFF".toList,
      .insert "😀".toList, .insert "\uFFFF".toList, .remove "a".toList]⟩
    let broken : Text := "[\"a\", null]".toList
    h.set.toList = ["b".toList, "\uFFFF".toList, "😀".toList] ∧
      (h.set.step (.insert "😀".toList)).1 = .changed false ∧
      (∀ l, ¬Json.Lists broken l) ∧ h.set.step (.readJson broken) = (.refused, h.set) ∧
      h.set.step (.readJson "[ ]".toList) = (.done, ∅) := by
  intro h broken
  have hbroken : ∀ l, ¬Json.Lists broken l := namesOfJson?_eq_none_iff.1 (by decide +kernel)
  have hempty : Json.Lists "[ ]".toList [] :=
    ⟨[], _, [], rfl, Json.space_nil, .emptyArray Json.space_blank, Json.space_nil⟩
  obtain ⟨-, -, -, -, hanswer, -, -, hread, hrefused⟩ := set_exact h
  exact ⟨by decide +kernel, (hanswer _ _ List.mem_cons_self).trans (by decide +kernel), hbroken,
    (hrefused broken hbroken).1, (hread _ _ hempty).1⟩

end History

end ExportSurface.SymbolSet
