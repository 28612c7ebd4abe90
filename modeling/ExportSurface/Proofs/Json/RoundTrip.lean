import ExportSurface.Proofs.Json.Literals
import Mathlib.Data.List.TakeWhile

/-!
# Reading JSON that was written

`Json.Writes w v` says that the text `w` writes the value `v`, with any blanks between its tokens and
any literals for its strings. Both printed forms are such texts, and the reader reads each of them
back.

* `Json.parse?_of_writes`: a text that writes a value is read as that value, whatever blanks are
  around it.
* `Json.writes_prettyAt_array` and `Json.writes_prettyAt_object`: the pretty form of an array or an
  object writes it, if those of its parts write them.
* `Json.writes_compact_array`: so does the compact form of an array.
-/

namespace ExportSurface.Json

/-! ## Blanks -/

/-- The text is made of blanks that may stand between tokens. -/
def Space (b : Text) : Prop := ∀ c ∈ b, isSpace c

theorem skip_append {b : Text} (hb : Space b) (s : Text) : skip (b ++ s) = skip s :=
  List.dropWhile_append_of_pos hb

theorem skip_cons {c : Char} (hc : isSpace c = false) (s : Text) : skip (c :: s) = c :: s :=
  List.dropWhile_cons_of_neg (by simp [hc])

theorem skip_space_cons {b : Text} (hb : Space b) {c : Char} (hc : isSpace c = false) (s : Text) :
    skip (b ++ c :: s) = c :: s :=
  (skip_append hb _).trans (skip_cons hc s)

/-! ## Steps of the reader -/

/-- What a reader takes from the start of a text and what it leaves, without the reason why that is
shorter. -/
def taken {α : Type} (read : (s : Text) → Option (Reading α s)) (s : Text) : Option (α × Text) :=
  (read s).map fun r => (r.value, r.rest)

theorem taken_of? {α : Type} {read : Text → Option (α × Text)} {s : Text} {x : α × Text}
    (h : read s = some x) (hlt : x.2.length < s.length) :
    taken (fun s => Reading.of? s (read s)) s = some x := by
  rw [taken, h, Reading.of?_some hlt]
  rfl

/-! The readers call each other, and carry the proofs that end their recursion. These are their
equations without the proofs. -/

theorem taken_value (s : Text) : taken value s =
    match skip s with
    | [] => none
    | '[' :: r =>
      match skip r with
      | ']' :: rest => some (array [], rest)
      | _ => (taken items r).map fun x => (array x.1, x.2)
    | '\x7b' :: r =>
      match skip r with
      | '\x7d' :: rest => some (object [], rest)
      | _ => (taken members r).map fun x => (object x.1, x.2)
    | _ => taken (fun s => Reading.of? s (scalar? (skip s))) s := by
  unfold taken value
  split <;> rename_i heq
  · simp only [heq]
    rfl
  · simp only [heq]
    split <;> rename_i heq'
    · simp only [heq']
      rfl
    · split
      · next h' => exact absurd h' (heq' _)
      · cases items _ <;> rfl
  · simp only [heq]
    split <;> rename_i heq'
    · simp only [heq']
      rfl
    · split
      · next h' => exact absurd h' (heq' _)
      · cases members _ <;> rfl
  · next harray hobject =>
    simp only [heq]
    split
    · next h' => cases h'
    · next h' => exact absurd (List.cons.inj h').1 harray
    · next h' => exact absurd (List.cons.inj h').1 hobject
    · rfl

theorem taken_items (s : Text) : taken items s =
    match taken value s with
    | none => none
    | some (v, r) =>
      match skip r with
      | ']' :: rest => some ([v], rest)
      | ',' :: rest => (taken items rest).map fun x => (v :: x.1, x.2)
      | _ => none := by
  unfold taken
  rw [items]
  cases value s with
  | none => rfl
  | some x =>
    dsimp only [Option.map_some]
    split <;> rename_i heq
    · simp only [heq, Option.map_some]
    · simp only [heq]
      cases items _ <;> rfl
    · split
      · next h' => simp_all
      · next h' => simp_all
      · rfl

theorem taken_members (s : Text) : taken members s =
    match taken (fun s => Reading.of? s (key? s)) s with
    | none => none
    | some (k, t) =>
      match taken value t with
      | none => none
      | some (v, r) =>
        match skip r with
        | '\x7d' :: rest => some ([(k, v)], rest)
        | ',' :: rest => (taken members rest).map fun x => ((k, v) :: x.1, x.2)
        | _ => none := by
  unfold taken
  rw [members]
  dsimp only
  cases Reading.of? s (key? s) with
  | none => rfl
  | some k =>
    dsimp only [Option.map_some]
    cases value k.rest with
    | none => rfl
    | some x =>
      dsimp only [Option.map_some]
      split <;> rename_i heq
      · simp only [heq, Option.map_some]
      · simp only [heq]
        cases members _ <;> rfl
      · split
        · next h' => simp_all
        · next h' => simp_all
        · rfl

theorem parse?_eq (s : Text) : parse? s =
    match taken value s with
    | some (v, rest) => if (skip rest).isEmpty then some v else none
    | none => none := by
  rw [parse?, taken]
  cases value s <;> rfl

/-! ## Texts that write a value -/

mutual

/-- The text writes the value: `true`, `false`, `null`, a literal, or brackets around parts with
blanks around each of them. No text is said to write a number, or a string that stands for no
text. -/
inductive Writes : Text → Json → Prop
  | null : Writes "null".toList null
  | bool (b : Bool) : Writes (boolWord b) (bool b)
  | text {q t : Text} (h : WritesLiteral q t) : Writes q (ofText t)
  | emptyArray {b : Text} (hb : Space b) : Writes ('[' :: (b ++ [']'])) (array [])
  | array {w : Text} {l : List Json} (h : WritesItems w l) : Writes ('[' :: (w ++ [']'])) (array l)
  | emptyObject {b : Text} (hb : Space b) : Writes ('\x7b' :: (b ++ ['\x7d'])) (object [])
  | object {w : Text} {ms : List (JsonString × Json)} (h : WritesMembers w ms) :
      Writes ('\x7b' :: (w ++ ['\x7d'])) (object ms)

/-- The text writes the items, of which there are some. -/
inductive WritesItems : Text → List Json → Prop
  | last {b w b' : Text} {v : Json} (hb : Space b) (h : Writes w v) (hb' : Space b') :
      WritesItems (b ++ (w ++ b')) [v]
  | cons {b w b' rest : Text} {v : Json} {l : List Json} (hb : Space b) (h : Writes w v)
      (hb' : Space b') (hrest : WritesItems rest l) :
      WritesItems (b ++ (w ++ (b' ++ ',' :: rest))) (v :: l)

/-- The text writes the members, of which there are some. -/
inductive WritesMembers : Text → List (JsonString × Json) → Prop
  | last {b q k b₁ b₂ w b₃ : Text} {v : Json} (hb : Space b) (hk : WritesLiteral q k)
      (hb₁ : Space b₁) (hb₂ : Space b₂) (h : Writes w v) (hb₃ : Space b₃) :
      WritesMembers (b ++ (q ++ (b₁ ++ ':' :: (b₂ ++ (w ++ b₃))))) [(some k, v)]
  | cons {b q k b₁ b₂ w b₃ rest : Text} {v : Json} {ms : List (JsonString × Json)} (hb : Space b)
      (hk : WritesLiteral q k) (hb₁ : Space b₁) (hb₂ : Space b₂) (h : Writes w v) (hb₃ : Space b₃)
      (hrest : WritesMembers rest ms) :
      WritesMembers (b ++ (q ++ (b₁ ++ ':' :: (b₂ ++ (w ++ (b₃ ++ ',' :: rest))))))
        ((some k, v) :: ms)

end

/-- A value starts with a character that neither is a blank nor ends an array. -/
theorem Writes.exists_cons {w : Text} {v : Json} (h : Writes w v) :
    ∃ c r, w = c :: r ∧ isSpace c = false ∧ c ≠ ']' := by
  cases h with
  | null => exact ⟨'n', _, rfl, rfl, by decide⟩
  | bool b => cases b <;> exact ⟨_, _, rfl, rfl, by decide⟩
  | text h =>
    obtain ⟨w, rfl, -⟩ := h
    exact ⟨'"', _, rfl, rfl, by decide⟩
  | emptyArray hb => exact ⟨'[', _, rfl, rfl, by decide⟩
  | array h => exact ⟨'[', _, rfl, rfl, by decide⟩
  | emptyObject hb => exact ⟨'\x7b', _, rfl, rfl, by decide⟩
  | object h => exact ⟨'\x7b', _, rfl, rfl, by decide⟩

theorem WritesItems.skip_ne {w : Text} {l : List Json} (h : WritesItems w l) (r rest : Text) :
    skip (w ++ r) ≠ ']' :: rest := by
  have key : ∀ {b w' : Text} {v : Json} (tail : Text), Space b → Writes w' v →
      skip (b ++ (w' ++ tail)) ≠ ']' :: rest := by
    intro b w' v tail hb h hs
    obtain ⟨c, w', rfl, hc, hne⟩ := h.exists_cons
    rw [List.cons_append, skip_space_cons hb hc] at hs
    exact hne (List.cons.inj hs).1
  cases h with
  | last hb h hb' =>
    rw [List.append_assoc, List.append_assoc]
    exact key _ hb h
  | cons hb h hb' hrest =>
    rw [List.append_assoc, List.append_assoc]
    exact key _ hb h

theorem WritesLiteral.exists_skip {b q t : Text} (hb : Space b) (h : WritesLiteral q t) (r : Text) :
    ∃ s, skip (b ++ (q ++ r)) = '"' :: s ∧ stringRest s = some (some t, r) := by
  obtain ⟨s, hs, hread⟩ := h.exists_append r
  exact ⟨s, by rw [hs, skip_space_cons hb rfl], hread⟩

theorem WritesMembers.skip_ne {w : Text} {ms : List (JsonString × Json)} (h : WritesMembers w ms)
    (r rest : Text) : skip (w ++ r) ≠ '\x7d' :: rest := by
  have key : ∀ {b q k : Text} (tail : Text), Space b → WritesLiteral q k →
      skip (b ++ (q ++ tail)) ≠ '\x7d' :: rest := by
    intro b q k tail hb hk hs
    obtain ⟨s, hquote, -⟩ := hk.exists_skip hb tail
    exact absurd (List.cons.inj (hquote.symm.trans hs)).1 (by decide)
  cases h with
  | last hb hk =>
    rw [List.append_assoc, List.append_assoc]
    exact key _ hb hk
  | cons hb hk =>
    rw [List.append_assoc, List.append_assoc]
    exact key _ hb hk

/-! ## Reading them -/

theorem key?_of_writesLiteral {b q k b₁ : Text} (hb : Space b) (hk : WritesLiteral q k)
    (hb₁ : Space b₁) (r : Text) : key? (b ++ (q ++ (b₁ ++ ':' :: r))) = some (some k, r) := by
  obtain ⟨s, hskip, hread⟩ := hk.exists_skip hb (b₁ ++ ':' :: r)
  simp only [key?, hskip, hread, skip_space_cons (c := ':') hb₁ rfl]

/-- What is read of a value without parts. -/
theorem taken_value_scalar {b w r : Text} {v : Json} {c : Char} (hb : Space b)
    (hc : isSpace c = false) (harray : c ≠ '[') (hobject : c ≠ '\x7b')
    (h : scalar? (c :: (w ++ r)) = some (v, r)) :
    taken value (b ++ c :: (w ++ r)) = some (v, r) := by
  have hskip := skip_space_cons hb hc (w ++ r)
  rw [taken_value, hskip]
  split
  · next h' => cases h'
  · next h' => exact absurd (List.cons.inj h').1 harray
  · next h' => exact absurd (List.cons.inj h').1 hobject
  · refine taken_of? (hskip.symm ▸ h) ?_
    simp only [List.length_append, List.length_cons]
    omega

theorem taken_value_array {b w r : Text} {l : List Json} (hb : Space b) (hw : WritesItems w l)
    (h : taken items (w ++ ']' :: r) = some (l, r)) :
    taken value (b ++ '[' :: (w ++ ']' :: r)) = some (array l, r) := by
  simp only [taken_value, skip_space_cons (c := '[') hb rfl]
  split
  · next h' => exact absurd h' (hw.skip_ne _ _)
  · rw [h]
    rfl

theorem taken_value_object {b w r : Text} {ms : List (JsonString × Json)} (hb : Space b)
    (hw : WritesMembers w ms) (h : taken members (w ++ '\x7d' :: r) = some (ms, r)) :
    taken value (b ++ '\x7b' :: (w ++ '\x7d' :: r)) = some (object ms, r) := by
  simp only [taken_value, skip_space_cons (c := '\x7b') hb rfl]
  split
  · next h' => exact absurd h' (hw.skip_ne _ _)
  · rw [h]
    rfl

mutual

/-- **A text that writes a value is read as that value**, whatever stands behind it. -/
theorem taken_value_of_writes {w : Text} {v : Json} (h : Writes w v) {b : Text} (hb : Space b)
    (r : Text) : taken value (b ++ (w ++ r)) = some (v, r) := by
  cases h with
  | null => exact taken_value_scalar (c := 'n') hb rfl (by decide) (by decide) rfl
  | bool b =>
    cases b with
    | true => exact taken_value_scalar (c := 't') hb rfl (by decide) (by decide) rfl
    | false => exact taken_value_scalar (c := 'f') hb rfl (by decide) (by decide) rfl
  | text h =>
    obtain ⟨w, rfl, hw⟩ := h
    refine taken_value_scalar (c := '"') hb rfl (by decide) (by decide) ?_
    have hread := stringRest_of_writesText hw r
    rw [← List.singleton_append (x := '"'), ← List.append_assoc] at hread
    exact congrArg (Option.map _) hread
  | emptyArray hb' =>
    rw [List.cons_append, List.append_assoc, taken_value]
    simp only [skip_space_cons (c := '[') hb rfl, List.singleton_append,
      skip_space_cons (c := ']') hb' rfl]
  | array h =>
    rw [List.cons_append, List.append_assoc]
    exact taken_value_array hb h (taken_items_of_writes h r)
  | emptyObject hb' =>
    rw [List.cons_append, List.append_assoc, taken_value]
    simp only [skip_space_cons (c := '\x7b') hb rfl, List.singleton_append,
      skip_space_cons (c := '\x7d') hb' rfl]
  | object h =>
    rw [List.cons_append, List.append_assoc]
    exact taken_value_object hb h (taken_members_of_writes h r)

theorem taken_items_of_writes {w : Text} {l : List Json} (h : WritesItems w l) (r : Text) :
    taken items (w ++ ']' :: r) = some (l, r) := by
  cases h with
  | last hb h hb' =>
    simp only [List.append_assoc, taken_items, taken_value_of_writes h hb,
      skip_space_cons (c := ']') hb' rfl]
  | cons hb h hb' hrest =>
    simp only [List.append_assoc, List.cons_append]
    rw [taken_items]
    simp only [taken_value_of_writes h hb, skip_space_cons (c := ',') hb' rfl,
      taken_items_of_writes hrest, Option.map_some]

theorem taken_members_of_writes {w : Text} {ms : List (JsonString × Json)}
    (h : WritesMembers w ms) (r : Text) :
    taken members (w ++ '\x7d' :: r) = some (ms, r) := by
  cases h with
  | last hb hk hb₁ hb₂ h hb₃ =>
    simp only [List.append_assoc, List.cons_append]
    rw [taken_members, taken_of? (key?_of_writesLiteral hb hk hb₁ _) (by simp; omega)]
    simp only [taken_value_of_writes h hb₂, skip_space_cons (c := '\x7d') hb₃ rfl]
  | cons hb hk hb₁ hb₂ h hb₃ hrest =>
    simp only [List.append_assoc, List.cons_append]
    rw [taken_members, taken_of? (key?_of_writesLiteral hb hk hb₁ _) (by simp; omega)]
    simp only [taken_value_of_writes h hb₂, skip_space_cons (c := ',') hb₃ rfl,
      taken_members_of_writes hrest, Option.map_some]

end

/-- **A document is read as the value that its text writes.** -/
theorem parse?_of_writes {b w b' : Text} {v : Json} (hb : Space b) (h : Writes w v)
    (hb' : Space b') : parse? (b ++ (w ++ b')) = some v := by
  have hrest : skip b' = [] := List.dropWhile_eq_nil_iff.2 hb'
  simp only [parse?_eq, taken_value_of_writes h hb, hrest, List.isEmpty_nil, if_true]

/-! ## Printed arrays and objects -/

theorem space_nil : Space [] := fun _ hc => absurd hc List.not_mem_nil

theorem space_blank : Space [' '] := fun _ hc => List.mem_singleton.1 hc ▸ rfl

theorem space_newLine (level : Nat) : Space (newLine level) := by
  intro c hc
  rcases List.mem_cons.1 hc with rfl | hc
  · rfl
  · rw [List.eq_of_mem_replicate hc]
    rfl

theorem prettyItems_eq_map (level : Nat) (l : List Json) :
    prettyItems level l = l.map (prettyAt level) := by
  induction l with
  | nil => rfl
  | cons v l ih => rw [prettyItems, ih, List.map_cons]

theorem compactItems_eq_map (l : List Json) : compactItems l = l.map compact := by
  induction l with
  | nil => rfl
  | cons v l ih => rw [compactItems, ih, List.map_cons]

section

variable {level : Nat} {b : Text}

/-- Items in any form, with the same blanks in front of each, are items with blanks around them. -/
theorem writesItems_join {form : Json → Text} {lead : Text} {v : Json} {l : List Json}
    (h : ∀ u ∈ v :: l, Writes (form u) u) (hlead : Space lead) (hb : Space b) :
    WritesItems (join ',' (((v :: l).map form).map (lead ++ ·)) ++ b) (v :: l) := by
  have hv : Writes (form v) v := h v List.mem_cons_self
  induction l generalizing v with
  | nil =>
    have hlast := WritesItems.last hlead hv hb
    rwa [← List.append_assoc] at hlast
  | cons u l ih =>
    have hrest : ∀ x ∈ u :: l, Writes (form x) x := fun x hx => h x (List.mem_cons_of_mem v hx)
    have hcons := WritesItems.cons hlead hv space_nil (ih hrest (hrest u List.mem_cons_self))
    rwa [List.nil_append, ← List.cons_append, ← List.append_assoc, ← List.append_assoc] at hcons

/-- A member whose key is a text and whose value is written by its pretty form. -/
def WritesMember (level : Nat) (m : JsonString × Json) : Prop :=
  ∃ k, m.1 = some k ∧ Writes (prettyAt level m.2) m.2

/-- Members on lines of their own are members with blanks around them. -/
theorem writesMembers_lines {m : JsonString × Json} {ms : List (JsonString × Json)}
    (h : ∀ x ∈ m :: ms, WritesMember level x) (hb : Space b) :
    WritesMembers (join ',' ((prettyMembers level (m :: ms)).map (newLine level ++ ·)) ++ b)
      (m :: ms) := by
  induction ms generalizing m with
  | nil =>
    obtain ⟨k, v⟩ := m
    obtain ⟨k, rfl, hv⟩ := h _ List.mem_cons_self
    have hlast := WritesMembers.last (space_newLine level) (writesLiteral_quote k) space_nil
      space_blank hv hb
    simpa [prettyMembers, join] using hlast
  | cons m' ms ih =>
    obtain ⟨k, v⟩ := m
    obtain ⟨k, rfl, hv⟩ := h _ List.mem_cons_self
    have hrest : ∀ x ∈ m' :: ms, WritesMember level x :=
      fun x hx => h x (List.mem_cons_of_mem _ hx)
    have hcons := WritesMembers.cons (space_newLine level) (writesLiteral_quote k) space_nil
      space_blank hv space_nil (ih hrest)
    simpa [prettyMembers, join] using hcons

end

theorem writes_prettyAt_array {level : Nat} {l : List Json}
    (h : ∀ v ∈ l, Writes (prettyAt (level + 1) v) v) :
    Writes (prettyAt level (array l)) (array l) := by
  cases l with
  | nil => exact .emptyArray space_nil
  | cons v l =>
    have hitems := writesItems_join h (space_newLine (level + 1)) (space_newLine level)
    rw [← prettyItems_eq_map] at hitems
    exact .array hitems

theorem writes_compact_array {l : List Json} (h : ∀ v ∈ l, Writes (compact v) v) :
    Writes (compact (array l)) (array l) := by
  cases l with
  | nil => exact .emptyArray space_nil
  | cons v l =>
    have hitems := writesItems_join h space_nil space_nil
    simp only [List.nil_append, List.map_id', List.append_nil] at hitems
    rw [← compactItems_eq_map] at hitems
    exact .array hitems

theorem writes_prettyAt_object {level : Nat} {ms : List (JsonString × Json)}
    (h : ∀ m ∈ ms, WritesMember (level + 1) m) :
    Writes (prettyAt level (object ms)) (object ms) := by
  cases ms with
  | nil => exact .emptyObject space_nil
  | cons m ms => exact Writes.object (writesMembers_lines h (space_newLine level))

end ExportSurface.Json
