import ExportSurface.Text.Blank
import Mathlib.Data.List.DropRight

/-!
# Ends and words of texts

What trimming and word splitting give, said without their loops.

* `Text.firstWord?_eq_some_iff`: the first word of a text is its `IsFirstWord`. Blanks around the
  text do not count (`isFirstWord_append_left_iff`, `isFirstWord_append_right_iff`).
* `Text.trim_eq_self_iff`: a text is trimmed if it neither starts nor ends with a blank, and what
  trimming gives is such a text (`not_isBlank_head_trim`, `not_isBlank_getLast_trim`).
  `Text.isTrimmed_iff`: it gives what is left between the blanks.
-/

namespace ExportSurface

/-! ## Dropping an end -/

variable {α : Type} {p : α → Bool}

theorem dropTrailing_eq_rdropWhile (p : α → Bool) (s : List α) :
    dropTrailing p s = s.rdropWhile p := rfl

theorem dropTrailing_append_rtakeWhile (p : α → Bool) (s : List α) :
    dropTrailing p s ++ s.rtakeWhile p = s := List.rdropWhile_append_rtakeWhile

theorem not_getLast_dropTrailing (p : α → Bool) (s : List α) :
    ∀ c ∈ (dropTrailing p s).getLast?, ¬p c := by
  intro c hc
  obtain ⟨hne, rfl⟩ := List.mem_getLast?_eq_getLast hc
  exact List.rdropWhile_last_not p s hne

theorem dropTrailing_eq_self_iff {s : List α} :
    dropTrailing p s = s ↔ ∀ c ∈ s.getLast?, ¬p c := by
  rw [dropTrailing_eq_rdropWhile, List.rdropWhile_eq_self_iff]
  constructor
  · intro h c hc
    obtain ⟨hne, rfl⟩ := List.mem_getLast?_eq_getLast hc
    exact h hne
  · exact fun h hne => h _ (List.getLast?_eq_getLast_of_ne_nil hne)

/-- An end on which the test holds is dropped, whatever stands before it. -/
theorem dropTrailing_append {t : List α} (s : List α) (ht : ∀ c ∈ t, p c) :
    dropTrailing p (s ++ t) = dropTrailing p s := by
  rw [dropTrailing, List.reverse_append,
    List.dropWhile_append_of_pos fun c hc => ht c (List.mem_reverse.1 hc), dropTrailing]

theorem dropWhile_eq_self_of_head {s : List α} (h : ∀ c ∈ s.head?, ¬p c) : s.dropWhile p = s := by
  cases s with
  | nil => rfl
  | cons c r => exact List.dropWhile_cons_of_neg (h c rfl)

/-- A character on which the test fails stays behind what is dropped. -/
theorem dropWhile_concat_of_neg {c : α} (hc : ¬p c) (s : List α) :
    (s ++ [c]).dropWhile p = s.dropWhile p ++ [c] := by
  rw [List.dropWhile_append]
  split
  · next hempty => rw [List.isEmpty_iff.1 hempty, List.dropWhile_cons_of_neg hc, List.nil_append]
  · rfl

theorem takeWhile_concat_of_neg {c : α} (hc : ¬p c) (s : List α) :
    (s ++ [c]).takeWhile p = s.takeWhile p := by
  rw [List.takeWhile_append]
  split
  · next hlength =>
    rw [List.takeWhile_cons_of_neg hc, List.append_nil]
    exact ((List.takeWhile_prefix p).eq_of_length hlength).symm
  · rfl

theorem not_head_dropWhile (p : α → Bool) (s : List α) : ∀ c ∈ (s.dropWhile p).head?, ¬p c := by
  intro c hc
  have := List.head?_dropWhile_not p s
  rw [Option.mem_def.1 hc] at this
  simpa using this

namespace Text

/-! ## Trimming -/

theorem trim_eq_self_iff {s : Text} :
    trim s = s ↔ (∀ c ∈ s.head?, ¬isBlank c) ∧ ∀ c ∈ s.getLast?, ¬isBlank c := by
  constructor
  · intro h
    have hlen : (s.dropWhile isBlank).length = s.length := by
      refine le_antisymm (List.dropWhile_suffix isBlank).length_le ?_
      calc s.length = (dropTrailing isBlank (s.dropWhile isBlank)).length := congrArg _ h.symm
        _ ≤ _ := (List.rdropWhile_prefix isBlank _).length_le
    have hd : s.dropWhile isBlank = s := (List.dropWhile_suffix isBlank).eq_of_length hlen
    refine ⟨hd ▸ not_head_dropWhile isBlank s, dropTrailing_eq_self_iff.1 ?_⟩
    rwa [trim, hd] at h
  · rintro ⟨hh, hl⟩
    rw [trim, dropWhile_eq_self_of_head hh, dropTrailing_eq_self_iff.2 hl]

/-- Blanks that end a text do not matter to trimming. -/
theorem trim_append_of_blank (s : Text) {trail : Text} (h : ∀ c ∈ trail, isBlank c) :
    trim (s ++ trail) = trim s := by
  by_cases hs : s.dropWhile isBlank = []
  · have hall : trail.dropWhile isBlank = [] := List.dropWhile_eq_nil_iff.2 h
    have hleft : (s ++ trail).dropWhile isBlank = trail.dropWhile isBlank :=
      List.dropWhile_append_of_pos (List.dropWhile_eq_nil_iff.1 hs)
    rw [trim, hleft, hall, trim, hs]
  · have hleft : (s ++ trail).dropWhile isBlank = s.dropWhile isBlank ++ trail := by
      rw [List.dropWhile_append, if_neg (by simpa using hs)]
    rw [trim, hleft, dropTrailing_append _ h, trim]

theorem trim_infix (s : Text) : trim s <:+: s :=
  (List.rdropWhile_prefix isBlank _).isInfix.trans (List.dropWhile_suffix isBlank).isInfix

theorem not_isBlank_getLast_trim (s : Text) : ∀ c ∈ (trim s).getLast?, ¬isBlank c :=
  not_getLast_dropTrailing isBlank _

theorem not_isBlank_head_trim (s : Text) : ∀ c ∈ (trim s).head?, ¬isBlank c := by
  intro c hc
  have hhead : (trim s).head? = some c := hc
  refine not_head_dropWhile isBlank s c (Option.mem_def.2 ?_)
  rw [← dropTrailing_append_rtakeWhile isBlank (s.dropWhile isBlank), List.head?_append]
  change (trim s).head?.or _ = some c
  rw [hhead, Option.some_or]

/-- The text `core` is the text `s` without the blanks at both its ends. -/
def IsTrimmed (core s : Text) : Prop :=
  ∃ lead trail, s = lead ++ core ++ trail ∧ (∀ c ∈ lead, isBlank c) ∧ (∀ c ∈ trail, isBlank c) ∧
    (∀ c ∈ core.head?, ¬isBlank c) ∧ ∀ c ∈ core.getLast?, ¬isBlank c

theorem isTrimmed_iff {core s : Text} : IsTrimmed core s ↔ trim s = core := by
  constructor
  · rintro ⟨lead, trail, rfl, hlead, htrail, hhead, hlast⟩
    rw [trim_append_of_blank _ htrail, trim, List.dropWhile_append_of_pos hlead]
    exact trim_eq_self_iff.2 ⟨hhead, hlast⟩
  · rintro rfl
    refine ⟨s.takeWhile isBlank, (s.dropWhile isBlank).rtakeWhile isBlank, ?_,
      fun c hc => List.mem_takeWhile_imp hc, fun c hc => List.mem_rtakeWhile_imp hc,
      not_isBlank_head_trim s, not_isBlank_getLast_trim s⟩
    rw [List.append_assoc, trim, dropTrailing_append_rtakeWhile, List.takeWhile_append_dropWhile]

/-! ## The first word -/

/-- The word `w` is the first one of the text `s`: only blanks stand before it, no blank stands in
it, and it ends with the text or in front of a blank. -/
def IsFirstWord (w s : Text) : Prop :=
  ∃ lead rest, s = lead ++ w ++ rest ∧ (∀ c ∈ lead, isBlank c) ∧ w ≠ [] ∧ (∀ c ∈ w, ¬isBlank c) ∧
    ∀ c ∈ rest.head?, isBlank c

theorem IsFirstWord.isInfix {w s : Text} (h : IsFirstWord w s) : w <:+: s := by
  obtain ⟨lead, rest, rfl, -⟩ := h
  exact List.infix_append lead w rest

theorem firstWord?_eq_some_iff {s w : Text} : firstWord? s = some w ↔ IsFirstWord w s := by
  constructor
  · intro h
    have hw : (s.dropWhile isBlank).takeWhile (!isBlank ·) = w ∧ w ≠ [] := by
      unfold firstWord? at h
      split at h
      · cases h
      · next hne => exact ⟨Option.some.inj h, Option.some.inj h ▸ hne⟩
    obtain ⟨hw, hne⟩ := hw
    refine ⟨s.takeWhile isBlank, (s.dropWhile isBlank).dropWhile (!isBlank ·), ?_, ?_, hne, ?_, ?_⟩
    · rw [← hw, List.append_assoc, List.takeWhile_append_dropWhile,
        List.takeWhile_append_dropWhile]
    · exact fun c hc => List.mem_takeWhile_imp hc
    · intro c hc
      have := List.mem_takeWhile_imp (hw ▸ hc)
      simpa using this
    · intro c hc
      simpa using not_head_dropWhile (!isBlank ·) (s.dropWhile isBlank) c hc
  · rintro ⟨lead, rest, rfl, hlead, hne, hw, hrest⟩
    have hhead : ∀ c ∈ (w ++ rest).head?, ¬isBlank c := by
      obtain ⟨a, w, rfl⟩ := List.exists_cons_of_ne_nil hne
      intro c hc
      obtain rfl : a = c := by simpa using hc
      exact hw a List.mem_cons_self
    have hword : (w ++ rest).takeWhile (!isBlank ·) = w := by
      have hnil : rest.takeWhile (!isBlank ·) = [] := by
        cases rest with
        | nil => rfl
        | cons c r => simp [hrest c rfl]
      rw [List.takeWhile_append_of_pos fun c hc => by simpa using hw c hc, hnil, List.append_nil]
    rw [firstWord?, List.append_assoc, List.dropWhile_append_of_pos hlead,
      dropWhile_eq_self_of_head hhead, hword]
    split
    · exact absurd rfl hne
    · rfl

theorem isFirstWord_append_left_iff {lead s w : Text} (h : ∀ c ∈ lead, isBlank c) :
    IsFirstWord w (lead ++ s) ↔ IsFirstWord w s := by
  rw [← firstWord?_eq_some_iff, ← firstWord?_eq_some_iff, firstWord?, firstWord?,
    List.dropWhile_append_of_pos h]

theorem firstWord?_append_of_blank (s : Text) {trail : Text} (h : ∀ c ∈ trail, isBlank c) :
    firstWord? (s ++ trail) = firstWord? s := by
  have hnone : trail.takeWhile (!isBlank ·) = [] := by
    cases trail with
    | nil => rfl
    | cons c r => simp [h c List.mem_cons_self]
  have hall : trail.dropWhile isBlank = [] := List.dropWhile_eq_nil_iff.2 h
  have hwords : ((s ++ trail).dropWhile isBlank).takeWhile (!isBlank ·) =
      (s.dropWhile isBlank).takeWhile (!isBlank ·) := by
    rw [List.dropWhile_append]
    split
    · next hs => rw [hall, List.isEmpty_iff.1 hs]
    · rw [List.takeWhile_append, hnone, List.append_nil]
      split
      · next hs => exact ((List.takeWhile_prefix _).eq_of_length hs).symm
      · rfl
  rw [firstWord?, hwords, firstWord?]

theorem isFirstWord_append_right_iff {s trail w : Text} (h : ∀ c ∈ trail, isBlank c) :
    IsFirstWord w (s ++ trail) ↔ IsFirstWord w s := by
  rw [← firstWord?_eq_some_iff, ← firstWord?_eq_some_iff, firstWord?_append_of_blank s h]

end Text

end ExportSurface
