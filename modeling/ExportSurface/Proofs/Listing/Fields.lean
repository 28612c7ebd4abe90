import ExportSurface.Listing.Record
import ExportSurface.Proofs.Text.Pieces
import ExportSurface.Proofs.Text.Words

/-!
# Fields read declaratively

What a block says, in terms of its lines.

* `IsField label body value`: behind the label on the first line of the body that has it stands
  `value`. `field?_eq_some_iff` is the reader of fields against this, up to blanks at both ends.
* `Unplaced value rest`: `rest` is the value without what ends its line and without a place in the
  string table at its end (`unplaced_iff`).
* `Says label body word`: the first word of the field is `word` (`fieldWord?_eq_some_iff`).
-/

namespace ExportSurface.Listing

/-! ## Lines with a label -/

/-- The line holds a value for the label, behind its indentation, the label and a colon. -/
def IsFieldLine (label line value : Text) : Prop :=
  ∃ indent, line = indent ++ label ++ ':' :: value ∧ ∀ c ∈ indent, isLineBlank c

/-- What stands behind the label on the first line of the body that has the label. -/
def IsField (label body value : Text) : Prop :=
  ∃ earlier line later, pieces '\n' body = earlier ++ line :: later ∧
    IsFieldLine label line value ∧ ∀ l ∈ earlier, ∀ v, ¬IsFieldLine label l v

theorem IsField.isInfix {label body value : Text} (h : IsField label body value) :
    value <:+: body := by
  obtain ⟨earlier, line, later, hlines, ⟨indent, rfl, -⟩, -⟩ := h
  have hline : indent ++ label ++ ':' :: value ∈ pieces '\n' body := by
    rw [hlines]
    exact List.mem_append_right _ List.mem_cons_self
  have hvalue : value <:+ indent ++ label ++ ':' :: value :=
    (List.suffix_cons ':' value).trans (List.suffix_append _ _)
  exact hvalue.isInfix.trans (isInfix_of_mem_pieces hline)

/-- A value without the blanks around it. -/
def bare (value : Text) : Text := dropTrailing isLineEnd (value.dropWhile isLineBlank)

theorem isBlank_of_isLineBlank {c : Char} (h : isLineBlank c) : isBlank c := by
  simp only [isLineBlank, Bool.or_eq_true, decide_eq_true_eq] at h
  rcases h with rfl | rfl <;> decide

theorem isBlank_of_isLineEnd {c : Char} (h : isLineEnd c) : isBlank c := by
  simp only [isLineEnd, Bool.or_eq_true, decide_eq_true_eq] at h
  rcases h with h | rfl
  · exact isBlank_of_isLineBlank h
  · decide

theorem not_isAlpha_of_isLineBlank {c : Char} (h : isLineBlank c) : ¬c.isAlpha := by
  simp only [isLineBlank, Bool.or_eq_true, decide_eq_true_eq] at h
  rcases h with rfl | rfl <;> decide

/-- A label is a word of ASCII letters. -/
structure IsLabel (label : Text) : Prop where
  ne_nil : label ≠ []
  letters : ∀ c ∈ label, c.isAlpha

theorem fieldOfLine?_eq_some_iff {label line v : Text} (hlabel : IsLabel label) :
    fieldOfLine? line = some (label, v) ↔
      ∃ value, IsFieldLine label line value ∧ bare value = v := by
  constructor
  · intro h
    unfold fieldOfLine? at h
    dsimp only at h
    split at h
    · next c l value htake hdrop =>
      obtain ⟨rfl, rfl⟩ := Prod.mk.inj (Option.some.inj h)
      refine ⟨value, ⟨line.takeWhile isLineBlank, ?_, fun c hc => List.mem_takeWhile_imp hc⟩, rfl⟩
      rw [← htake, ← hdrop, List.append_assoc, List.takeWhile_append_dropWhile,
        List.takeWhile_append_dropWhile]
    · cases h
  · rintro ⟨value, ⟨indent, rfl, hindent⟩, rfl⟩
    obtain ⟨c, l, rfl⟩ := List.exists_cons_of_ne_nil hlabel.ne_nil
    have hhead : ∀ d ∈ (c :: l ++ ':' :: value).head?, ¬isLineBlank d := by
      intro d hd hb
      obtain rfl : c = d := by simpa using hd
      exact not_isAlpha_of_isLineBlank hb (hlabel.letters c List.mem_cons_self)
    have htake : (c :: l ++ ':' :: value).takeWhile Char.isAlpha = c :: l := by
      rw [List.takeWhile_append_of_pos hlabel.letters, List.takeWhile_cons_of_neg (by decide),
        List.append_nil]
    have hdrop : (c :: l ++ ':' :: value).dropWhile Char.isAlpha = ':' :: value := by
      rw [List.dropWhile_append_of_pos hlabel.letters, List.dropWhile_cons_of_neg (by decide)]
    unfold fieldOfLine?
    dsimp only
    rw [List.append_assoc, List.dropWhile_append_of_pos hindent, dropWhile_eq_self_of_head hhead,
      htake, hdrop]
    rfl

/-! ## The first line with a label -/

theorem lookup_filterMap_eq_some_iff {α β γ : Type} [BEq β] [LawfulBEq β] {f : α → Option (β × γ)}
    {l : List α} {k : β} {v : γ} :
    (l.filterMap f).lookup k = some v ↔
      ∃ l₁ x l₂, l = l₁ ++ x :: l₂ ∧ f x = some (k, v) ∧ ∀ y ∈ l₁, ∀ w, f y ≠ some (k, w) := by
  induction l with
  | nil => simp
  | cons a l ih =>
    have behind (ha : ∀ w, f a ≠ some (k, w)) :
        (∃ l₁ x l₂, a :: l = l₁ ++ x :: l₂ ∧ f x = some (k, v) ∧ ∀ y ∈ l₁, ∀ w, f y ≠ some (k, w)) ↔
          ∃ l₁ x l₂, l = l₁ ++ x :: l₂ ∧ f x = some (k, v) ∧ ∀ y ∈ l₁, ∀ w, f y ≠ some (k, w) := by
      constructor
      · rintro ⟨_ | ⟨b, l₁⟩, x, l₂, heq, hx, hl₁⟩
        · obtain ⟨rfl, rfl⟩ := List.cons.inj heq
          exact absurd hx (ha v)
        · obtain ⟨rfl, rfl⟩ := List.cons.inj heq
          exact ⟨l₁, x, l₂, rfl, hx, fun y hy => hl₁ y (List.mem_cons_of_mem _ hy)⟩
      · rintro ⟨l₁, x, l₂, rfl, hx, hl₁⟩
        refine ⟨a :: l₁, x, l₂, rfl, hx, fun y hy => ?_⟩
        rcases List.mem_cons.1 hy with rfl | hy
        · exact ha
        · exact hl₁ y hy
    cases hfa : f a with
    | none =>
      rw [List.filterMap_cons_none hfa, ih, behind fun w hw => by simp [hfa] at hw]
    | some p =>
      obtain ⟨k', w⟩ := p
      rw [List.filterMap_cons_some hfa, List.lookup_cons]
      by_cases hk : k = k'
      · subst hk
        rw [beq_self_eq_true]
        constructor
        · intro h
          obtain rfl := Option.some.inj h
          exact ⟨[], a, l, rfl, hfa, fun y hy => absurd hy List.not_mem_nil⟩
        · rintro ⟨_ | ⟨b, l₁⟩, x, l₂, heq, hx, hl₁⟩
          · obtain ⟨rfl, rfl⟩ := List.cons.inj heq
            exact congrArg (Option.map Prod.snd) (hfa.symm.trans hx)
          · obtain ⟨rfl, rfl⟩ := List.cons.inj heq
            exact absurd hfa (hl₁ a List.mem_cons_self w)
      · rw [beq_false_of_ne hk]
        refine ih.trans (behind fun w' hw => hk ?_).symm
        exact (Prod.mk.inj (Option.some.inj (hfa.symm.trans hw))).1.symm

/-- **The reader of fields**: it finds the first line with the label. -/
theorem field?_eq_some_iff {label body v : Text} (hlabel : IsLabel label) :
    field? label body = some v ↔ ∃ value, IsField label body value ∧ bare value = v := by
  have hline {line : Text} :
      (∀ w, fieldOfLine? line ≠ some (label, w)) ↔ ∀ value, ¬IsFieldLine label line value := by
    simp only [ne_eq, fieldOfLine?_eq_some_iff hlabel]
    exact ⟨fun h value hv => h _ ⟨value, hv, rfl⟩, fun h w ⟨value, hv, _⟩ => h value hv⟩
  simp only [field?, fields, lookup_filterMap_eq_some_iff, hline, fieldOfLine?_eq_some_iff hlabel]
  constructor
  · rintro ⟨earlier, line, later, hlines, ⟨value, hvalue, hv⟩, hfirst⟩
    exact ⟨value, ⟨earlier, line, later, hlines, hvalue, hfirst⟩, hv⟩
  · rintro ⟨value, ⟨earlier, line, later, hlines, hvalue, hfirst⟩, hv⟩
    exact ⟨earlier, line, later, hlines, ⟨value, hvalue, hv⟩, hfirst⟩

/-! ## First words -/

/-- The first word of the field is `word`. -/
def Says (label body word : Text) : Prop :=
  ∃ value, IsField label body value ∧ Text.IsFirstWord word value

/-- The blanks around a value do not matter to its first word. -/
theorem isFirstWord_bare_iff {value w : Text} :
    Text.IsFirstWord w (bare value) ↔ Text.IsFirstWord w value := by
  conv_rhs => rw [← List.takeWhile_append_dropWhile (p := isLineBlank) (l := value)]
  rw [Text.isFirstWord_append_left_iff fun c hc =>
    isBlank_of_isLineBlank (List.mem_takeWhile_imp hc)]
  conv_rhs => rw [← dropTrailing_append_rtakeWhile isLineEnd (value.dropWhile isLineBlank)]
  rw [Text.isFirstWord_append_right_iff fun c hc =>
    isBlank_of_isLineEnd (List.mem_rtakeWhile_imp hc)]
  rfl

theorem fieldWord?_eq_some_iff {label body w : Text} (hlabel : IsLabel label) :
    fieldWord? label body = some w ↔ Says label body w := by
  simp only [fieldWord?, Option.bind_eq_some_iff, field?_eq_some_iff hlabel,
    Text.firstWord?_eq_some_iff]
  constructor
  · rintro ⟨_, ⟨value, hvalue, rfl⟩, hw⟩
    exact ⟨value, hvalue, isFirstWord_bare_iff.1 hw⟩
  · rintro ⟨value, hvalue, hw⟩
    exact ⟨bare value, ⟨value, hvalue, rfl⟩, isFirstWord_bare_iff.2 hw⟩

/-! ## Places in the string table -/

/-- A place in the string table: a run of decimal digits in parentheses. -/
def IsPlace (s : Text) : Prop :=
  ∃ digits, s = '(' :: digits ++ [')'] ∧ digits ≠ [] ∧ ∀ c ∈ digits, isDecimalDigit c

theorem dropPlace_append {stem place : Text} (h : IsPlace place) :
    dropPlace (stem ++ place) = stem := by
  obtain ⟨digits, rfl, hne, hdigits⟩ := h
  have hrev : (stem ++ ('(' :: digits ++ [')'])).reverse =
      ')' :: (digits.reverse ++ '(' :: stem.reverse) := by simp
  have hall : ∀ c ∈ digits.reverse, isDecimalDigit c :=
    fun c hc => hdigits c (List.mem_reverse.1 hc)
  have htake : (digits.reverse ++ '(' :: stem.reverse).takeWhile isDecimalDigit =
      digits.reverse := by
    rw [List.takeWhile_append_of_pos hall, List.takeWhile_cons_of_neg (by decide), List.append_nil]
  have hdrop : (digits.reverse ++ '(' :: stem.reverse).dropWhile isDecimalDigit =
      '(' :: stem.reverse := by
    rw [List.dropWhile_append_of_pos hall, List.dropWhile_cons_of_neg (by decide)]
  obtain ⟨d, ds, hd⟩ := List.exists_cons_of_ne_nil (List.reverse_ne_nil_iff.2 hne)
  rw [hd] at hrev htake hdrop
  simp only [dropPlace, hrev, htake, hdrop, List.reverse_reverse]

theorem dropPlace_eq_or (s : Text) :
    (∃ place, IsPlace place ∧ s = dropPlace s ++ place) ∨ dropPlace s = s := by
  unfold dropPlace
  split
  · next r hr =>
    split
    · next d ds before htake hdrop =>
      refine .inl ⟨'(' :: (d :: ds).reverse ++ [')'], ⟨(d :: ds).reverse, rfl, by simp, ?_⟩, ?_⟩
      · intro c hc
        rw [← htake] at hc
        exact List.mem_takeWhile_imp (List.mem_reverse.1 hc)
      · have hs := congrArg List.reverse hr
        rw [List.reverse_reverse, ← List.takeWhile_append_dropWhile (p := isDecimalDigit) (l := r),
          htake, hdrop] at hs
        rw [hs]
        simp
    · exact .inr rfl
  · exact .inr rfl

/-- What is left of a value when the blanks that end its line and then a place at its end are left
out. -/
def Unplaced (value rest : Text) : Prop :=
  ∃ kept trail, value = kept ++ trail ∧ (∀ c ∈ trail, isLineEnd c) ∧
    (∀ c ∈ kept.getLast?, ¬isLineEnd c) ∧
    ((∃ place, IsPlace place ∧ kept = rest ++ place) ∨
      kept = rest ∧ ∀ stem place, IsPlace place → kept ≠ stem ++ place)

theorem Unplaced.isPrefix {value rest : Text} (h : Unplaced value rest) : rest <+: value := by
  obtain ⟨kept, trail, rfl, -, -, ⟨place, -, rfl⟩ | ⟨rfl, -⟩⟩ := h
  · exact (List.prefix_append rest place).trans (List.prefix_append _ _)
  · exact List.prefix_append kept trail

theorem unplaced_iff {value rest : Text} :
    Unplaced value rest ↔ dropPlace (dropTrailing isLineEnd value) = rest := by
  constructor
  · rintro ⟨kept, trail, rfl, htrail, hkept, hrest⟩
    rw [dropTrailing_append kept htrail, dropTrailing_eq_self_iff.2 hkept]
    rcases hrest with ⟨place, hplace, rfl⟩ | ⟨rfl, hnone⟩
    · exact dropPlace_append hplace
    · rcases dropPlace_eq_or kept with ⟨place, hplace, heq⟩ | heq
      · exact absurd heq (hnone _ place hplace)
      · exact heq
  · rintro rfl
    refine ⟨_, _, (dropTrailing_append_rtakeWhile isLineEnd value).symm,
      fun c hc => List.mem_rtakeWhile_imp hc, not_getLast_dropTrailing isLineEnd value, ?_⟩
    by_cases hplace : ∃ stem place, IsPlace place ∧
        dropTrailing isLineEnd value = stem ++ place
    · obtain ⟨stem, place, hplace, heq⟩ := hplace
      exact .inl ⟨place, hplace, by rw [heq, dropPlace_append hplace]⟩
    · refine .inr ⟨?_, fun stem place hp heq => hplace ⟨stem, place, hp, heq⟩⟩
      rcases dropPlace_eq_or (dropTrailing isLineEnd value) with ⟨place, hp, heq⟩ | heq
      · exact absurd ⟨_, place, hp, heq⟩ hplace
      · exact heq.symm

theorem IsPlace.ne_nil {place : Text} (h : IsPlace place) : place ≠ [] := by
  obtain ⟨digits, rfl, -⟩ := h
  exact List.cons_ne_nil _ _

theorem IsPlace.not_isLineBlank_head {c : Char} {place : Text} (h : IsPlace (c :: place)) :
    ¬isLineBlank c := by
  obtain ⟨digits, heq, -⟩ := h
  obtain ⟨rfl, -⟩ := List.cons.inj heq
  decide

/-- A place never takes away indentation. -/
theorem dropPlace_indent_append {indent : Text} (h : ∀ c ∈ indent, isLineBlank c) (s : Text) :
    dropPlace (indent ++ s) = indent ++ dropPlace s := by
  rcases dropPlace_eq_or s with ⟨place, hplace, heq⟩ | heq
  · conv_lhs => rw [heq, ← List.append_assoc]
    exact dropPlace_append hplace
  · have hnone {stem place : Text} (hplace : IsPlace place) : s ≠ stem ++ place := fun hs => by
      rw [hs, dropPlace_append hplace] at heq
      exact hplace.ne_nil (by simpa using heq)
    rcases dropPlace_eq_or (indent ++ s) with ⟨place, hplace, hs⟩ | hs
    · rcases List.append_eq_append_iff.1 hs with ⟨stem, -, hs⟩ | ⟨overlap, hindent, hs⟩
      · exact absurd hs (hnone hplace)
      · cases overlap with
        | nil => exact absurd hs.symm (hnone hplace : s ≠ [] ++ place)
        | cons c overlap =>
          rw [hs] at hplace
          exact absurd (h c (by rw [hindent]; simp)) hplace.not_isLineBlank_head
    · rw [hs, heq]

/-- Blanks before a value do not matter to the first word in front of a place. -/
theorem isFirstWord_dropPlace_bare_iff {value w : Text} :
    Text.IsFirstWord w (dropPlace (bare value)) ↔
      Text.IsFirstWord w (dropPlace (dropTrailing isLineEnd value)) := by
  have hindent : ∀ c ∈ value.takeWhile isLineBlank, isLineBlank c :=
    fun c hc => List.mem_takeWhile_imp hc
  have hcut : value = value.takeWhile isLineBlank ++ value.dropWhile isLineBlank :=
    List.takeWhile_append_dropWhile.symm
  have hcore := dropTrailing_append_rtakeWhile isLineEnd (value.dropWhile isLineBlank)
  have htrail : ∀ c ∈ (value.dropWhile isLineBlank).rtakeWhile isLineEnd, isLineEnd c :=
    fun c hc => List.mem_rtakeWhile_imp hc
  have hdrop : dropTrailing isLineEnd value =
      dropTrailing isLineEnd (value.takeWhile isLineBlank ++ bare value) := by
    conv_lhs => rw [hcut, ← hcore, ← List.append_assoc]
    exact dropTrailing_append _ htrail
  by_cases hbare : bare value = []
  · have hnil : dropTrailing isLineEnd value = [] := by
      rw [hdrop, hbare, List.append_nil, dropTrailing_eq_rdropWhile, List.rdropWhile_eq_nil_iff]
      exact fun c hc => by simp [isLineEnd, hindent c hc]
    rw [hbare, hnil]
  · have hlast : ∀ c ∈ (value.takeWhile isLineBlank ++ bare value).getLast?, ¬isLineEnd c := by
      intro c hc
      rw [List.getLast?_append_of_ne_nil _ hbare] at hc
      exact not_getLast_dropTrailing isLineEnd _ c hc
    rw [hdrop, dropTrailing_eq_self_iff.2 hlast, dropPlace_indent_append hindent,
      Text.isFirstWord_append_left_iff fun c hc => isBlank_of_isLineBlank (hindent c hc)]

end ExportSurface.Listing
