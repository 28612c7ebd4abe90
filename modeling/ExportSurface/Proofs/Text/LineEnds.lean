import ExportSurface.Proofs.Text.Pieces
import ExportSurface.Text.Blank

/-!
# Line ends

Some systems end a line with a carriage return and a line feed, others with a line feed alone. What
converting a text from the second way to the first does to the readers that texts are taken apart
with.

* `Text.crlf` is the converted text.
* `filterMap_pieces_crlf`: a reader of lines that does not see a carriage return at the end of a line
  does not see the conversion.
* `pieces_crlf`, `dropPrefix?_crlf` and `dropWhile_isBlank_crlf`: cutting, and dropping a start,
  commute with the conversion.
-/

namespace ExportSurface

namespace Text

/-- The text with a carriage return in front of each line feed. -/
def crlf (s : Text) : Text := s.flatMap fun c => if c = '\n' then ['\r', '\n'] else [c]

/-- The second text is the first one, as it stands or converted. -/
def Converts (s s' : Text) : Prop := s' = s ∨ s' = s.crlf

variable {s : Text} {c : Char}

theorem crlf_cons_line_feed (s : Text) : crlf ('\n' :: s) = '\r' :: '\n' :: crlf s := rfl

theorem crlf_cons_of_ne (hc : c ≠ '\n') (s : Text) : crlf (c :: s) = c :: crlf s := by
  simp [crlf, hc]

theorem crlf_append (a b : Text) : crlf (a ++ b) = crlf a ++ crlf b := List.flatMap_append

theorem crlf_of_not_mem (h : '\n' ∉ s) : crlf s = s := by
  induction s with
  | nil => rfl
  | cons c r ih =>
    obtain ⟨hc, hr⟩ := not_or.1 (mt List.mem_cons.2 h)
    rw [crlf_cons_of_ne (Ne.symm hc), ih hr]

/-- Converting adds no other characters than carriage returns. -/
theorem mem_of_mem_crlf (hc : c ≠ '\r') (h : c ∈ crlf s) : c ∈ s := by
  obtain ⟨d, hd, hmem⟩ := List.mem_flatMap.1 h
  split at hmem
  · next hfeed =>
    obtain rfl : c = '\n' := by simpa [hc] using hmem
    exact hfeed ▸ hd
  · exact List.mem_singleton.1 hmem ▸ hd

/-! ## Dropping a start -/

/-- Blanks that start a text are dropped, however its lines end. -/
theorem dropWhile_isBlank_crlf (s : Text) :
    (crlf s).dropWhile isBlank = crlf (s.dropWhile isBlank) := by
  induction s with
  | nil => rfl
  | cons c r ih =>
    by_cases hfeed : c = '\n'
    · subst hfeed
      have hblank : isBlank '\n' = true ∧ isBlank '\r' = true := by decide
      rw [crlf_cons_line_feed, List.dropWhile_cons_of_pos hblank.2,
        List.dropWhile_cons_of_pos hblank.1, List.dropWhile_cons_of_pos hblank.1, ih]
    · rw [crlf_cons_of_ne hfeed]
      by_cases hblank : isBlank c
      · rw [List.dropWhile_cons_of_pos hblank, List.dropWhile_cons_of_pos hblank, ih]
      · rw [List.dropWhile_cons_of_neg hblank, List.dropWhile_cons_of_neg hblank,
          crlf_cons_of_ne hfeed]

/-- A text starts with a word of one line exactly if the converted text does. -/
theorem dropPrefix?_crlf {p : Text} (hreturn : '\r' ∉ p) (hfeed : '\n' ∉ p) (s : Text) :
    dropPrefix? p (crlf s) = (dropPrefix? p s).map crlf := by
  induction p generalizing s with
  | nil => rfl
  | cons a p ih =>
    obtain ⟨hreturn, hreturns⟩ := not_or.1 (mt List.mem_cons.2 hreturn)
    obtain ⟨hfeed, hfeeds⟩ := not_or.1 (mt List.mem_cons.2 hfeed)
    cases s with
    | nil => rfl
    | cons c r =>
      by_cases hc : c = '\n'
      · subst hc
        rw [crlf_cons_line_feed, dropPrefix?, dropPrefix?, if_neg (Ne.symm hreturn),
          if_neg (Ne.symm hfeed)]
        rfl
      · rw [crlf_cons_of_ne hc, dropPrefix?, dropPrefix?]
        split
        · exact ih hreturns hfeeds r
        · rfl

end Text

/-! ## Cutting -/

/-- Cutting at a separator that ends no line commutes with converting. -/
theorem pieces_crlf {sep : Char} (hreturn : sep ≠ '\r') (hfeed : sep ≠ '\n') (s : Text) :
    pieces sep (Text.crlf s) = (pieces sep s).map Text.crlf := by
  induction s using cutInduction sep with
  | whole s hs =>
    rw [pieces_of_not_mem hs, pieces_of_not_mem (mt (Text.mem_of_mem_crlf hreturn) hs)]
    rfl
  | cut a b ha ih =>
    have hcut : Text.crlf (a ++ sep :: b) = Text.crlf a ++ sep :: Text.crlf b := by
      rw [Text.crlf_append, Text.crlf_cons_of_ne hfeed]
    rw [hcut, pieces_append_cons, pieces_append_cons, List.map_append, ih, pieces_of_not_mem ha,
      pieces_of_not_mem (mt (Text.mem_of_mem_crlf hreturn) ha)]
    rfl

/-- **What converting does to the lines of a text.** Each line but the last one gets a carriage
return at its end, so a reader of lines that does not see it there does not see the conversion. -/
theorem filterMap_pieces_crlf {β : Type} {f : Text → Option β}
    (hf : ∀ line, f (line ++ ['\r']) = f line) (s : Text) :
    (pieces '\n' (Text.crlf s)).filterMap f = (pieces '\n' s).filterMap f := by
  induction s using cutInduction '\n' with
  | whole s hs => rw [Text.crlf_of_not_mem hs]
  | cut a b ha ih =>
    have hcut : Text.crlf (a ++ '\n' :: b) = (a ++ ['\r']) ++ '\n' :: Text.crlf b := by
      rw [Text.crlf_append, Text.crlf_of_not_mem ha, Text.crlf_cons_line_feed, List.append_assoc]
      rfl
    have hline : '\n' ∉ a ++ ['\r'] := by simp [ha]
    rw [hcut, pieces_append_cons, pieces_append_cons, pieces_of_not_mem ha, pieces_of_not_mem hline,
      List.filterMap_append, List.filterMap_append, ih, List.filterMap_cons, List.filterMap_cons, hf]

end ExportSurface
