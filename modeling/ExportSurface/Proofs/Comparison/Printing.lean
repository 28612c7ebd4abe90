import ExportSurface.Comparison.Document
import ExportSurface.Comparison.Report
import ExportSurface.Proofs.Json.Lists

/-!
# What printed comparisons say

Either printed form of a comparison tells its verdict: the report for people is empty exactly if the
sets agree, and the JSON document is read back as what was printed.

* `Comparison.report_eq_nil_iff`: when the report is empty.
* `SymbolSet.parseJson?_of_writes`: an array of strings is read as the set of its items.
* `ComparisonDocument.parse?_render`: a printed document is read as itself.
* `ComparisonDocument.reads_back` puts the last two together.
-/

namespace ExportSurface

/-! ## Reports -/

namespace Comparison

theorem missingHeading_ne_nil : missingHeading ≠ [] := List.cons_ne_nil _ _

theorem addedHeading_ne_nil : addedHeading ≠ [] := List.cons_ne_nil _ _

theorem group_eq_nil_iff {heading : Text} {names : SymbolSet} (h : heading ≠ []) :
    group heading names = [] ↔ names.isEmpty := by
  unfold group
  split
  · next he => simp [he]
  · next he => simp [he, h]

/-- **The report says nothing exactly if there is nothing to say.** -/
theorem report_eq_nil_iff {c : Comparison} : c.report = [] ↔ c.isCompatible := by
  rw [isCompatible, Bool.and_eq_true, ← group_eq_nil_iff missingHeading_ne_nil,
    ← group_eq_nil_iff addedHeading_ne_nil, report]
  constructor
  · intro h
    obtain ⟨h, hadded⟩ := List.append_eq_nil_iff.1 h
    exact ⟨(List.append_eq_nil_iff.1 h).1, hadded⟩
  · rintro ⟨hm, ha⟩
    simp [hm, ha]

end Comparison

/-! ## Documents -/

namespace SymbolSet

theorem ofList_toList (s : SymbolSet) : ofList s.toList = s := by
  ext n
  rw [mem_ofList, mem_toList]

theorem ofJson?_ofTexts (l : List Text) : ofJson? (.ofTexts l) = some (ofList l) := by
  rw [ofJson?, Json.texts?_eq_some_iff.2 rfl, Option.map_some]

theorem ofJson?_toJson (s : SymbolSet) : ofJson? s.toJson = some s := by
  rw [toJson, ofJson?_ofTexts, ofList_toList]

theorem writes_toJson (level : Nat) (s : SymbolSet) :
    Json.Writes (s.toJson.prettyAt level) s.toJson := by
  refine Json.writes_prettyAt_array fun v hv => ?_
  obtain ⟨t, -, rfl⟩ := List.mem_map.1 hv
  exact .text (Json.writesLiteral_quote t)

theorem writes_compact_toJson (s : SymbolSet) : Json.Writes s.toJson.compact s.toJson := by
  refine Json.writes_compact_array fun v hv => ?_
  obtain ⟨t, -, rfl⟩ := List.mem_map.1 hv
  exact .text (Json.writesLiteral_quote t)

/-- **What is read of an array of strings**: the set of its items, in whatever order and however
often they stand there, and whatever blanks and literals write them. -/
theorem parseJson?_of_writes {b w b' : Text} {l : List Text} (hb : Json.Space b)
    (h : Json.Writes w (.ofTexts l)) (hb' : Json.Space b') :
    parseJson? (b ++ (w ++ b')) = some (ofList l) := by
  rw [parseJson?, Json.parse?_of_writes hb h hb', Option.bind_some, ofJson?_ofTexts]

theorem parseJson?_compact (s : SymbolSet) : parseJson? s.toJson.compact = some s := by
  have hparse := parseJson?_of_writes Json.space_nil s.writes_compact_toJson Json.space_nil
  rwa [List.nil_append, List.append_nil, ofList_toList] at hparse

end SymbolSet

namespace ComparisonDocument

theorem writes_toJson (level : Nat) (d : ComparisonDocument) :
    Json.Writes (d.toJson.prettyAt level) d.toJson := by
  refine Json.writes_prettyAt_object fun m hm => ?_
  rcases List.mem_cons.1 hm with rfl | hm
  · exact ⟨compatibleKey, rfl, .bool d.compatible⟩
  rcases List.mem_cons.1 hm with rfl | hm
  · exact ⟨missingKey, rfl, d.missing.writes_toJson (level + 1)⟩
  · obtain rfl := List.mem_singleton.1 hm
    exact ⟨addedKey, rfl, d.added.writes_toJson (level + 1)⟩

theorem ofJson?_toJson (d : ComparisonDocument) : ofJson? d.toJson = some d := by
  have hvalues : ofValues? (.bool d.compatible) d.missing.toJson d.added.toJson = some d := by
    simp [ofValues?, Json.bool?, SymbolSet.ofJson?_toJson]
  -- The three keys are different texts, so each of them picks its own member.
  exact hvalues

/-- The text of a document is read as the JSON object of the document. -/
theorem jsonParse?_render (d : ComparisonDocument) : Json.parse? d.render = some d.toJson := by
  have hparse := Json.parse?_of_writes Json.space_nil (d.writes_toJson 0) Json.space_nil
  rwa [List.nil_append, List.append_nil] at hparse

/-- **A printed document is read as itself.** -/
theorem parse?_render (d : ComparisonDocument) : parse? d.render = some d := by
  rw [parse?, jsonParse?_render, Option.bind_some, ofJson?_toJson]

/-- The text of the document is an object in which the key has the value. -/
def Says (d : ComparisonDocument) (key : Text) (value : Json) : Prop :=
  ∃ ms, Json.parse? d.render = some (.object ms) ∧ member? key ms = some value

theorem says_compatible_iff {d : ComparisonDocument} {b : Bool} :
    d.Says compatibleKey (.bool b) ↔ d.compatible = b := by
  have hmember (ms : List (JsonString × Json)) (hms : d.toJson = .object ms) :
      member? compatibleKey ms = some (.bool d.compatible) := by
    obtain rfl := Json.object.inj hms
    rfl
  constructor
  · rintro ⟨ms, hparse, hvalue⟩
    have hms := Option.some.inj (d.jsonParse?_render.symm.trans hparse)
    rw [hmember ms hms] at hvalue
    exact Json.bool.inj (Option.some.inj hvalue)
  · rintro rfl
    exact ⟨_, d.jsonParse?_render, hmember _ rfl⟩

/-! ## Reading back -/

/-- **Printed JSON is read back.** A document is read from its text as it was, whatever its verdict and
its names, and a set from its compact form. Any array of strings is read as the set of its items:
neither their order nor their number counts, nor the blanks around them and the literals that write
them. -/
theorem reads_back :
    (∀ d : ComparisonDocument, parse? d.render = some d) ∧
    (∀ s : SymbolSet, SymbolSet.parseJson? s.toJson.compact = some s) ∧
    ∀ (b w b' : Text) (l : List Text), Json.Space b → Json.Writes w (.ofTexts l) → Json.Space b' →
      ∃ s, SymbolSet.parseJson? (b ++ (w ++ b')) = some s ∧ ∀ n, n ∈ s ↔ n ∈ l := by
  refine ⟨parse?_render, SymbolSet.parseJson?_compact, fun b w b' l hb h hb' => ?_⟩
  exact ⟨.ofList l, SymbolSet.parseJson?_of_writes hb h hb', fun n => SymbolSet.mem_ofList⟩

/-- An array that has a name twice, written by other literals and with a surrogate pair. -/
theorem reads_back_escaped :
    ∃ s, SymbolSet.parseJson? "\n[\"A\", \"\\uD83d\\ude00\\/\" ,\"\\u0041\"]".toList = some s ∧
      ['A'] ∈ s ∧ ['😀', '/'] ∈ s := by
  have hplain : Json.WritesLiteral "\"A\"".toList ['A'] :=
    ⟨['A'], rfl, .plain (by decide) (by decide) (by decide) .nil⟩
  have hA : Json.WritesNumber "0041".toList 'A'.toNat :=
    @Json.WritesNumber.digits '0' '0' '4' '1' 0 0 4 1 (by decide) (by decide) (by decide) (by decide)
  have hnumber : Json.WritesLiteral "\"\\u0041\"".toList ['A'] :=
    ⟨"\\u0041".toList, rfl, .number hA .nil⟩
  have hhigh : Json.WritesNumber "D83d".toList 0xD83D :=
    @Json.WritesNumber.digits 'D' '8' '3' 'd' 13 8 3 13 (by decide) (by decide) (by decide)
      (by decide)
  have hlow : Json.WritesNumber "de00".toList 0xDE00 :=
    @Json.WritesNumber.digits 'd' 'e' '0' '0' 13 14 0 0 (by decide) (by decide) (by decide)
      (by decide)
  have hpair : Json.WritesLiteral "\"\\uD83d\\ude00\\/\"".toList ['😀', '/'] :=
    ⟨"\\uD83d\\ude00\\/".toList, rfl, .pair hhigh hlow (by decide) (by decide) (by decide)
      (.letter (by decide) .nil)⟩
  have hitems : Json.WritesItems _ [.ofText ['A'], .ofText ['😀', '/'], .ofText ['A']] :=
    .cons Json.space_nil (.text hplain) Json.space_nil
      (.cons Json.space_blank (.text hpair) Json.space_blank
        (.last Json.space_nil (.text hnumber) Json.space_nil))
  obtain ⟨s, hs, hmem⟩ := reads_back.2.2 ['\n'] _ [] [['A'], ['😀', '/'], ['A']]
    (Json.space_newLine 0) (.array hitems) Json.space_nil
  exact ⟨s, hs, (hmem _).2 (by decide), (hmem _).2 (by decide)⟩

end ComparisonDocument

end ExportSurface
