import ExportSurface.Listing.Record
import ExportSurface.Proofs.Text.LineEnds
import ExportSurface.Proofs.Text.Words

/-!
# Listings and the ends of their lines

Converting the line ends of a listing converts its blocks one by one. A field does not see the
carriage return at the end of its line, so the records stay the same.

* `bodies_crlf`: the blocks of a converted listing are the converted blocks.
* `fields_crlf`: the fields of a converted block are those of the block.
* `records_crlf`: the records of a converted listing are those of the listing.
-/

namespace ExportSurface.Listing

open Text

/-! ## Blocks -/

variable {marker : Text}

theorem opened?_crlf (hreturn : '\r' ∉ marker) (hfeed : '\n' ∉ marker) (s : Text) :
    opened? marker (crlf s) = (opened? marker s).map crlf := by
  unfold opened?
  rw [dropPrefix?_crlf hreturn hfeed]
  cases dropPrefix? marker s with
  | none => rfl
  | some r =>
    simp only [Option.map_some, Option.bind_some]
    rw [dropWhile_isBlank_crlf, dropPrefix?_crlf (by decide) (by decide)]

/-- No marker starts at the end of a line. -/
theorem opened?_cons_of_not_mem {c : Char} (hne : marker ≠ []) (hc : c ∉ marker) (s : Text) :
    opened? marker (c :: s) = none := by
  obtain ⟨a, p, rfl⟩ := List.exists_cons_of_ne_nil hne
  have ha : a ≠ c := fun h => hc (h ▸ List.mem_cons_self)
  rw [opened?, dropPrefix?, if_neg ha]
  rfl

theorem body?_cons_of_not_mem {w : Bool} {c : Char} (hne : marker ≠ []) (hc : c ∉ marker) (s : Text) :
    body? marker w (c :: s) = body? marker (isWordChar c) s := by
  cases w with
  | true => rfl
  | false => rw [body?, opened?_cons_of_not_mem hne hc]

/-- The block of a converted text is the converted block. -/
theorem body?_crlf (hne : marker ≠ []) (hreturn : '\r' ∉ marker) (hfeed : '\n' ∉ marker) (w : Bool)
    (s : Text) : body? marker w (crlf s) = (body? marker w s).map crlf := by
  induction s generalizing w with
  | nil => cases w <;> rfl
  | cons c r ih =>
    by_cases hc : c = '\n'
    · subst hc
      rw [crlf_cons_line_feed, body?_cons_of_not_mem hne hreturn, body?_cons_of_not_mem hne hfeed,
        body?_cons_of_not_mem hne hfeed, ih]
    · have hopened := opened?_crlf hreturn hfeed (c :: r)
      rw [crlf_cons_of_ne hc] at hopened ⊢
      cases w with
      | true => exact ih _
      | false =>
        rw [body?, body?, hopened]
        cases opened? marker (c :: r) with
        | none => exact ih _
        | some body => rfl

theorem stretches_crlf (raw : Text) : stretches (crlf raw) = (stretches raw).map crlf := by
  rw [stretches, pieces_crlf (by decide) (by decide), stretches, List.map_dropLast]

theorem bodies_crlf (p : Platform) (raw : Text) :
    bodies p.marker (crlf raw) = (bodies p.marker raw).map crlf := by
  have hmarker : p.marker ≠ [] ∧ '\r' ∉ p.marker ∧ '\n' ∉ p.marker := by cases p <;> decide
  obtain ⟨hne, hreturn, hfeed⟩ := hmarker
  rw [bodies, stretches_crlf, List.filterMap_map, bodies, List.map_filterMap]
  exact List.filterMap_congr fun s _ => body?_crlf hne hreturn hfeed false s

/-! ## Fields -/

/-- **A field does not see a carriage return at the end of its line.** -/
theorem fieldOfLine?_append_return (line : Text) :
    fieldOfLine? (line ++ ['\r']) = fieldOfLine? line := by
  have hblank : ¬isLineBlank '\r' := by decide
  have hletter : ¬Char.isAlpha '\r' := by decide
  have hend : ∀ c ∈ ['\r'], isLineEnd c := List.forall_mem_singleton.2 (by decide)
  unfold fieldOfLine?
  dsimp only
  rw [dropWhile_concat_of_neg hblank, takeWhile_concat_of_neg hletter,
    dropWhile_concat_of_neg hletter]
  generalize (line.dropWhile isLineBlank).takeWhile Char.isAlpha = label
  generalize (line.dropWhile isLineBlank).dropWhile Char.isAlpha = behind
  cases label with
  | nil => rfl
  | cons c label =>
    cases behind with
    | nil => rfl
    | cons d value =>
      by_cases hcolon : d = ':'
      · subst hcolon
        simp only [List.cons_append]
        rw [dropWhile_concat_of_neg hblank, dropTrailing_append _ hend]
      · simp [hcolon]

theorem fields_crlf (body : Text) : fields (crlf body) = fields body :=
  filterMap_pieces_crlf fieldOfLine?_append_return body

/-! ## Records -/

theorem record?_crlf (p : Platform) (body : Text) : record? p (crlf body) = record? p body := by
  have hfield (label : Text) : field? label (crlf body) = field? label body := by
    rw [field?, fields_crlf, field?]
  cases p with
  | elf => simp only [record?, symbolTableRecord?, fieldWord?, hfield]
  | coff => simp only [record?, exportTableRecord?, fieldWord?, hfield]

/-- **Converting the line ends of a listing leaves its records.** -/
theorem records_crlf (p : Platform) (raw : Text) : records p (crlf raw) = records p raw := by
  rw [records, bodies_crlf, List.filterMap_map, records]
  exact List.filterMap_congr fun body _ => record?_crlf p body

end ExportSurface.Listing
