import ExportSurface.Proofs.Listing.Extraction

/-!
# Listings as they are laid out

The other side of the readers: all the ways to write a list of entries as a listing. The lines of a
block come in any order, with any margins, with LF or CRLF at their ends and with other lines between
them; the blocks may stand in any text that opens no block.

* `Layout p es` is a listing of the entries `es`, and `Layout.text` is how it is written.
* `BlockLayout.bind_field?_body` says what is read of a field of a block, and `bodies_filler_append`
  that the text around blocks hides none of them.
* `records_layout`: reading takes back exactly what was laid out.
-/

namespace ExportSurface.Listing

/-! ## Entries -/

/-- The fields that are read from a block. -/
inductive Key where
  | name
  | binding
  | kind
  | sectionName
  deriving DecidableEq, Repr

namespace Key

/-- What stands before the colon of the field. -/
def label : Key → Text
  | name => "Name".toList
  | binding => "Binding".toList
  | kind => "Type".toList
  | sectionName => "Section".toList

/-- Whether the field is read. Of an export table only the names are. -/
def isRead : Platform → Key → Bool
  | .elf, _ => true
  | .coff, k => k = name

theorem isRead_name (p : Platform) : isRead p name := by
  cases p <;> rfl

theorem isLabel : (k : Key) → IsLabel k.label
  | name => isLabel_name
  | binding => isLabel_binding
  | kind => isLabel_type
  | sectionName => isLabel_section

theorem label_inj {k k' : Key} : k.label = k'.label ↔ k = k' := by
  cases k <;> cases k' <;> decide

end Key

/-- A word that can stand in a block. -/
structure Word where
  text : Text
  ne_nil : text ≠ []
  not_blank : ∀ c ∈ text, ¬isBlank c
  not_closing : '}' ∉ text

/-- What a listing says of a symbol. -/
structure Entry where
  name : Word
  binding : Option Word
  kind : Option Word
  sectionName : Option Word

namespace Entry

/-- What the entry says in a field. -/
def word? (e : Entry) : Key → Option Word
  | .name => some e.name
  | .binding => e.binding
  | .kind => e.kind
  | .sectionName => e.sectionName

/-- The record that stands for the entry. -/
def record (e : Entry) : Platform → SymbolRecord
  | .elf =>
    { name := e.name.text
      binding := (e.binding.map fun w => Binding.ofWord w.text).getD .unknown
      kind := (e.kind.map fun w => SymbolKind.ofWord w.text).getD .unknown
      sectionName := (e.sectionName.map Word.text).getD [] }
  | .coff => .ofName e.name.text

end Entry

/-! ## Lines -/

/-- What may follow the word of a field: nothing, or more that a blank sets off. A symbol table writes
blanks and a place in the string table behind each name. -/
def IsRemark : Platform → Key → Text → Prop
  | .elf, .name, s => ∃ gap place, s = gap ++ place ∧ gap ≠ [] ∧ (∀ c ∈ gap, isBlank c) ∧ IsPlace place
  | _, _, s => ∀ c ∈ s.head?, isBlank c

/-- A line with a field. The trail may end in the carriage return of a CRLF. -/
structure FieldLine (p : Platform) (k : Key) where
  indent : Text
  lead : Text
  word : Word
  remark : Text
  trail : Text
  indent_blank : ∀ c ∈ indent, isLineBlank c
  lead_blank : ∀ c ∈ lead, isLineBlank c
  trail_blank : ∀ c ∈ trail, isLineEnd c
  isRemark : IsRemark p k remark
  remark_one_line : '\n' ∉ remark
  remark_not_closing : '}' ∉ remark

/-- A line that no field is read from. -/
structure OtherLine (p : Platform) where
  text : Text
  one_line : '\n' ∉ text
  not_closing : '}' ∉ text
  not_field : ∀ k : Key, k.isRead p → ∀ v, ¬IsFieldLine k.label text v

/-- A line of a block. -/
inductive Line (p : Platform) where
  | field (k : Key) (read : k.isRead p) (l : FieldLine p k)
  | other (l : OtherLine p)

namespace FieldLine

variable {p : Platform} {k : Key}

/-- What stands behind the colon. -/
def value (l : FieldLine p k) : Text := l.lead ++ l.word.text ++ l.remark ++ l.trail

/-- The line as it is written. -/
def text (l : FieldLine p k) : Text := l.indent ++ k.label ++ ':' :: l.value

theorem remark_head_blank (l : FieldLine p k) : ∀ c ∈ l.remark.head?, isBlank c := by
  have h := l.isRemark
  unfold IsRemark at h
  split at h
  · obtain ⟨gap, place, heq, hne, hgap, -⟩ := h
    obtain ⟨b, gap, rfl⟩ := List.exists_cons_of_ne_nil hne
    intro c hc
    obtain rfl : b = c := by simpa [heq] using hc
    exact hgap b List.mem_cons_self
  · exact h

/-- A character that no part of a line may have is not in the line. -/
theorem not_mem_text (l : FieldLine p k) {c : Char} (hlabel : c ∉ k.label) (hcolon : c ≠ ':')
    (hmargin : isLineEnd c = false) (hword : c ∉ l.word.text) (hremark : c ∉ l.remark) :
    c ∉ l.text := by
  have hindent : c ∉ l.indent := fun h => by simp [isLineEnd, l.indent_blank c h] at hmargin
  have hlead : c ∉ l.lead := fun h => by simp [isLineEnd, l.lead_blank c h] at hmargin
  have htrail : c ∉ l.trail := fun h => by simp [l.trail_blank c h] at hmargin
  simp [text, value, hindent, hlabel, hcolon, hlead, hword, hremark, htrail]

theorem one_line (l : FieldLine p k) : '\n' ∉ l.text := by
  refine l.not_mem_text ?_ (by decide) (by decide) ?_ l.remark_one_line
  · cases k <;> decide
  · exact fun h => l.word.not_blank '\n' h (by decide)

theorem not_closing (l : FieldLine p k) : '}' ∉ l.text := by
  refine l.not_mem_text ?_ (by decide) (by decide) l.word.not_closing l.remark_not_closing
  cases k <;> decide

theorem fieldOfLine?_text (l : FieldLine p k) :
    fieldOfLine? l.text = some (k.label, bare l.value) :=
  (fieldOfLine?_eq_some_iff k.isLabel).2 ⟨l.value, ⟨l.indent, rfl, l.indent_blank⟩, rfl⟩

/-- The word of a field is the first one of its value. -/
theorem firstWord?_bare_value (l : FieldLine p k) :
    (bare l.value).firstWord? = some l.word.text := by
  refine Text.firstWord?_eq_some_iff.2 (isFirstWord_bare_iff.2 ?_)
  refine ⟨l.lead, l.remark ++ l.trail, ?_, ?_, l.word.ne_nil, l.word.not_blank, ?_⟩
  · rw [value, List.append_assoc _ l.remark]
  · exact fun c hc => isBlank_of_isLineBlank (l.lead_blank c hc)
  · intro c hc
    rw [List.head?_append] at hc
    cases hremark : l.remark.head? with
    | none =>
      rw [hremark, Option.none_or] at hc
      exact isBlank_of_isLineEnd (l.trail_blank c (List.mem_of_mem_head? hc))
    | some d =>
      obtain rfl : d = c := by simpa [hremark] using hc
      exact l.remark_head_blank d hremark

/-- A place in the string table behind the name is no part of the name. -/
theorem firstWord?_dropPlace_bare_value (l : FieldLine .elf .name) :
    (dropPlace (bare l.value)).firstWord? = some l.word.text := by
  obtain ⟨gap, place, hremark, hne, hgap, hplace⟩ := l.isRemark
  have hlast : ∀ c ∈ (l.lead ++ l.word.text ++ (gap ++ place)).getLast?, ¬isLineEnd c := by
    obtain ⟨digits, rfl, -⟩ := hplace
    intro c hc
    obtain rfl : ')' = c := by simpa [List.getLast?_append, List.getLast?_cons] using hc
    decide
  have hkept : dropPlace (dropTrailing isLineEnd l.value) = l.lead ++ l.word.text ++ gap := by
    rw [value, hremark, dropTrailing_append _ l.trail_blank, dropTrailing_eq_self_iff.2 hlast,
      ← List.append_assoc, dropPlace_append hplace]
  refine Text.firstWord?_eq_some_iff.2 (isFirstWord_dropPlace_bare_iff.2 ?_)
  rw [hkept]
  refine ⟨l.lead, gap, rfl, ?_, l.word.ne_nil, l.word.not_blank, ?_⟩
  · exact fun c hc => isBlank_of_isLineBlank (l.lead_blank c hc)
  · exact fun c hc => hgap c (List.mem_of_mem_head? hc)

end FieldLine

namespace Line

variable {p : Platform}

/-- The line as it is written. -/
def text : Line p → Text
  | field _ _ l => l.text
  | other l => l.text

/-- The line, if it has the given field. -/
def field? (k : Key) : Line p → Option (FieldLine p k)
  | field k' _ l => if h : k' = k then some (h ▸ l) else none
  | other _ => none

theorem one_line : (l : Line p) → '\n' ∉ l.text
  | field _ _ l => l.one_line
  | other l => l.one_line

theorem not_closing : (l : Line p) → '}' ∉ l.text
  | field _ _ l => l.not_closing
  | other l => l.not_closing

variable {k : Key} {l : Line p}

theorem fieldOfLine?_text_of_field? {f : FieldLine p k} (h : l.field? k = some f) :
    fieldOfLine? l.text = some (k.label, bare f.value) := by
  cases l with
  | other l => cases h
  | field k' hk' l =>
    by_cases hkey : k' = k
    · subst hkey
      obtain rfl : l = f := Option.some.inj ((dif_pos rfl).symm.trans h)
      exact l.fieldOfLine?_text
    · exact absurd ((dif_neg hkey).symm.trans h) nofun

theorem fieldOfLine?_text_ne (hk : k.isRead p) (h : l.field? k = none) (v : Text) :
    fieldOfLine? l.text ≠ some (k.label, v) := by
  intro hl
  cases l with
  | other l =>
    obtain ⟨value, hvalue, -⟩ := (fieldOfLine?_eq_some_iff k.isLabel).1 hl
    exact l.not_field k hk value hvalue
  | field k' hk' l =>
    have hlabel := (Prod.mk.inj (Option.some.inj (l.fieldOfLine?_text.symm.trans hl))).1
    exact absurd ((dif_pos (Key.label_inj.1 hlabel)).symm.trans h) nofun

end Line

/-! ## Blocks -/

/-- A block that says of a symbol what an entry says. Each field that is read stands in it as often as
the entry has it, which is once or not at all. -/
structure BlockLayout (p : Platform) (e : Entry) where
  /-- What stands between the marker and the opening brace. -/
  gap : Text
  lines : List (Line p)
  gap_blank : ∀ c ∈ gap, isBlank c
  presents : ∀ k : Key, k.isRead p →
    (lines.filterMap (Line.field? k)).map FieldLine.word = (e.word? k).toList

/-- What is read of a field, line by line. -/
theorem lookup_fieldOfLine?_lines {p : Platform} {k : Key} (hk : k.isRead p) (ls : List (Line p)) :
    ((ls.map Line.text).filterMap fieldOfLine?).lookup k.label =
      (ls.filterMap (Line.field? k)).head?.map fun l => bare l.value := by
  induction ls with
  | nil => rfl
  | cons l ls ih =>
    rw [List.map_cons]
    cases hl : l.field? k with
    | some f =>
      rw [List.filterMap_cons_some (Line.fieldOfLine?_text_of_field? hl), List.filterMap_cons_some hl,
        List.lookup_cons, beq_self_eq_true]
      rfl
    | none =>
      rw [List.filterMap_cons_none hl, ← ih]
      have hother := Line.fieldOfLine?_text_ne hk hl
      cases hf : fieldOfLine? l.text with
      | none => rw [List.filterMap_cons_none hf]
      | some f =>
        obtain ⟨label, v⟩ := f
        have hne : k.label ≠ label := fun h => hother v (h ▸ hf)
        rw [List.filterMap_cons_some hf, List.lookup_cons, beq_false_of_ne hne]

namespace BlockLayout

variable {p : Platform} {e : Entry}

/-- What stands between the braces. -/
def body (b : BlockLayout p e) : Text := join '\n' (b.lines.map Line.text)

/-- The block as it is written. -/
def text (b : BlockLayout p e) : Text := p.marker ++ b.gap ++ '{' :: b.body ++ ['}']

theorem lines_ne_nil (b : BlockLayout p e) : b.lines ≠ [] := by
  intro h
  have hname := b.presents .name (Key.isRead_name p)
  simp [h, Entry.word?] at hname

theorem pieces_body (b : BlockLayout p e) : pieces '\n' b.body = b.lines.map Line.text := by
  refine pieces_join (by simpa using b.lines_ne_nil) fun l hl => ?_
  obtain ⟨l, -, rfl⟩ := List.mem_map.1 hl
  exact l.one_line

theorem not_closing_body (b : BlockLayout p e) : '}' ∉ b.body := by
  intro h
  rcases mem_join h with hsep | ⟨l, hl, hm⟩
  · exact absurd hsep (by decide)
  · obtain ⟨l, -, rfl⟩ := List.mem_map.1 hl
    exact l.not_closing hm

/-- **What is read of a field** is what the entry has in it, for every way to read the value that
finds the word. -/
theorem bind_field?_body (b : BlockLayout p e) {k : Key} (hk : k.isRead p) {g : Text → Option Text}
    (hg : ∀ l : FieldLine p k, g (bare l.value) = some l.word.text) :
    (Listing.field? k.label b.body).bind g = (e.word? k).map Word.text := by
  have hhead : (b.lines.filterMap (Line.field? k)).head?.map FieldLine.word = e.word? k := by
    rw [← List.head?_map, b.presents k hk, Option.head?_toList]
  rw [Listing.field?, fields, b.pieces_body, lookup_fieldOfLine?_lines hk, ← hhead]
  cases (b.lines.filterMap (Line.field? k)).head? with
  | none => rfl
  | some l => exact hg l

theorem fieldWord?_body (b : BlockLayout p e) {k : Key} (hk : k.isRead p) :
    fieldWord? k.label b.body = (e.word? k).map Word.text :=
  b.bind_field?_body hk FieldLine.firstWord?_bare_value

/-- **A block gives the record of its entry.** -/
theorem record?_body (b : BlockLayout p e) : record? p b.body = some (e.record p) := by
  cases p with
  | elf =>
    have hname : ((Listing.field? "Name".toList b.body).bind fun v => (dropPlace v).firstWord?) =
        some e.name.text :=
      b.bind_field?_body (k := .name) rfl FieldLine.firstWord?_dropPlace_bare_value
    have hbinding : fieldWord? "Binding".toList b.body = e.binding.map Word.text :=
      b.fieldWord?_body (k := .binding) rfl
    have hkind : fieldWord? "Type".toList b.body = e.kind.map Word.text :=
      b.fieldWord?_body (k := .kind) rfl
    have hsection : fieldWord? "Section".toList b.body = e.sectionName.map Word.text :=
      b.fieldWord?_body (k := .sectionName) rfl
    rw [record?, symbolTableRecord?, hname, hbinding, hkind, hsection, Option.map_map,
      Option.map_map]
    rfl
  | coff =>
    have hname : fieldWord? "Name".toList b.body = some e.name.text :=
      b.fieldWord?_body (k := .name) rfl
    rw [record?, exportTableRecord?, hname]
    rfl

end BlockLayout

/-! ## Text around blocks -/

/-- Text that opens no block and leaves no word before the next one. -/
structure Filler where
  text : Text
  not_opening : '{' ∉ text
  blank_end : ∀ c ∈ text.getLast?, isBlank c

theorem not_isWordChar_of_isBlank {c : Char} (h : isBlank c) : isWordChar c = false := by
  have hblanks : c.toNat ∈ [0x09, 0x0A, 0x0B, 0x0C, 0x0D, 0x20, 0x85, 0xA0, 0x1680, 0x2000, 0x2001,
      0x2002, 0x2003, 0x2004, 0x2005, 0x2006, 0x2007, 0x2008, 0x2009, 0x200A, 0x2028, 0x2029, 0x202F,
      0x205F, 0x3000] := by
    simp only [isBlank, Bool.or_eq_true, Bool.and_eq_true, decide_eq_true_eq, beq_iff_eq] at h
    simp only [List.mem_cons, List.not_mem_nil, or_false]
    omega
  rw [← Char.ofNat_toNat c]
  generalize c.toNat = n at hblanks
  revert n
  decide +kernel

variable {marker gap s body r : Text}

theorem body?_of_not_opening {w : Bool} (h : '{' ∉ s) : body? marker w s = none :=
  body?_eq_none_iff.2 ⟨fun o => h (by rw [o.text_eq]; simp)⟩

/-- A block is found behind text that opens none. -/
theorem body?_filler_append (hmarker : '{' ∉ marker) (hgap : ∀ c ∈ gap, isBlank c) (hs : '{' ∉ s)
    (hend : ∀ c ∈ s.getLast?, isBlank c) :
    body? marker false (s ++ marker ++ gap ++ '{' :: body) = some body := by
  have hgap' : '{' ∉ gap := not_mem_of_blank hgap (by decide)
  let o : Opening marker false (s ++ marker ++ gap ++ '{' :: body) :=
    { before := s, gap, body, text_eq := rfl, gap_blank := hgap
      not_after_word := by
        cases hl : s.getLast? with
        | none => rfl
        | some c => exact not_isWordChar_of_isBlank (hend c hl) }
  cases hfound : body? marker false (s ++ marker ++ gap ++ '{' :: body) with
  | none => exact ((body?_eq_none_iff.1 hfound).false o).elim
  | some body' =>
    -- The first opening starts no later than this one, so the first opening brace is that of both.
    obtain ⟨o', rfl, hfirst⟩ := exists_first_opening hfound
    have hstarts : o'.before <+: s := by
      have hbefore : o'.before <+: s ++ marker ++ gap ++ '{' :: body :=
        ⟨marker ++ o'.gap ++ '{' :: o'.body, by simpa using o'.text_eq.symm⟩
      exact List.prefix_of_prefix_length_le hbefore ⟨marker ++ gap ++ '{' :: body, by simp⟩ (hfirst o)
    have hopen : '{' ∉ s ++ marker ++ gap := by simp [hs, hmarker, hgap']
    have hopen' : '{' ∉ o'.before ++ marker ++ o'.gap := by
      have hbefore : '{' ∉ o'.before := fun h => hs (hstarts.subset h)
      simp [hbefore, hmarker, not_mem_of_blank (c := '{') o'.gap_blank (by decide)]
    exact congrArg some (append_cons_inj_of_not_mem hopen hopen' o'.text_eq).2.symm

theorem bodies_of_not_opening (hs : '{' ∉ s) : bodies marker s = [] := by
  induction s using cutInduction '}' with
  | whole s hclosing => rw [bodies, stretches_of_not_mem hclosing, List.filterMap_nil]
  | cut a b ha ih =>
    rw [bodies_append_cons marker ha, body?_of_not_opening fun h => hs (by simp [h]),
      ih fun h => hs (by simp [h])]
    rfl

/-- **Text around blocks hides none of them.** -/
theorem bodies_filler_append (hopening : '{' ∉ marker) (hclosing : '}' ∉ marker)
    (hgap : ∀ c ∈ gap, isBlank c) (hbody : '}' ∉ body) (before : Filler) (r : Text) :
    bodies marker (before.text ++ marker ++ gap ++ '{' :: body ++ '}' :: r) =
      body :: bodies marker r := by
  obtain ⟨s, hs, hend⟩ := before
  induction s using cutInduction '}' with
  | whole s hfree =>
    have hstretch : '}' ∉ s ++ marker ++ gap ++ '{' :: body := by
      simp [hfree, hclosing, hbody, not_mem_of_blank (c := '}') hgap (by decide)]
    rw [bodies_append_cons marker hstretch, body?_filler_append hopening hgap hs hend]
    rfl
  | cut a b ha ih =>
    have hb : '{' ∉ b := fun h => hs (by simp [h])
    have hend' : ∀ c ∈ b.getLast?, isBlank c := by
      intro c hc
      refine hend c ?_
      rw [List.getLast?_append, List.getLast?_cons, Option.mem_def.1 hc]
      rfl
    have hassoc : a ++ '}' :: b ++ marker ++ gap ++ '{' :: body ++ '}' :: r =
        a ++ '}' :: (b ++ marker ++ gap ++ '{' :: body ++ '}' :: r) := by simp
    rw [hassoc, bodies_append_cons marker ha, body?_of_not_opening fun h => hs (by simp [h]),
      ih hb hend']
    rfl

/-! ## Listings -/

/-- A listing of entries: a block for each of them, in order, and text around the blocks. -/
inductive Layout (p : Platform) : List Entry → Type where
  | done (after : Filler) : Layout p []
  | block {e : Entry} {es : List Entry} (before : Filler) (b : BlockLayout p e) (rest : Layout p es) :
      Layout p (e :: es)

namespace Layout

variable {p : Platform} {es : List Entry}

/-- The listing as it is written. -/
def text : {es : List Entry} → Layout p es → Text
  | _, done after => after.text
  | _, block before b rest => before.text ++ b.text ++ rest.text

theorem records_text (l : Layout p es) : records p l.text = es.map (Entry.record · p) := by
  have hopening : '{' ∉ p.marker := by cases p <;> decide
  have hclosing : '}' ∉ p.marker := by cases p <;> decide
  induction l with
  | done after => rw [text, records, bodies_of_not_opening after.not_opening]; rfl
  | block before b rest ih =>
    have hbodies := bodies_filler_append hopening hclosing b.gap_blank b.not_closing_body before
      rest.text
    have hassoc : before.text ++ b.text ++ rest.text =
        before.text ++ p.marker ++ b.gap ++ '{' :: b.body ++ '}' :: rest.text := by
      simp [BlockLayout.text]
    rw [text, hassoc, records, hbodies, List.filterMap_cons_some b.record?_body, List.map_cons, ← ih,
      records]

end Layout

/-! ## Plain listings -/

/-- What a plain listing writes behind the word of a field: the first place of the string table behind
a name in a symbol table, and nothing elsewhere. -/
def plainRemark : Platform → Key → Text
  | .elf, .name => " (0)".toList
  | _, _ => []

theorem isRemark_plainRemark (p : Platform) (k : Key) : IsRemark p k (plainRemark p k) := by
  unfold plainRemark IsRemark
  split
  · exact ⟨[' '], "(0)".toList, rfl, by simp, by simp; decide, ['0'], rfl, by simp, by simp; decide⟩
  · simp

/-- A field with one blank before its word. -/
def FieldLine.plain (p : Platform) (k : Key) (w : Word) : FieldLine p k where
  indent := []
  lead := [' ']
  word := w
  remark := plainRemark p k
  trail := []
  indent_blank := by simp
  lead_blank := by simp; decide
  trail_blank := by simp
  isRemark := isRemark_plainRemark p k
  remark_one_line := by unfold plainRemark; split <;> simp
  remark_not_closing := by unfold plainRemark; split <;> simp

/-- The fields of an entry that are read, one to a line. -/
def BlockLayout.plain (p : Platform) (e : Entry) : BlockLayout p e where
  gap := [' ']
  lines := [.name, .binding, .kind, .sectionName].filterMap fun k =>
    if h : k.isRead p then (e.word? k).map fun w => .field k h (.plain p k w) else none
  gap_blank := by simp; decide
  presents := by
    obtain ⟨name, binding, kind, sectionName⟩ := e
    intro k hk
    cases p <;> cases k <;> cases hk <;> cases binding <;> cases kind <;> cases sectionName <;> rfl

/-- The blocks of the entries, one after the other. -/
def Layout.plain (p : Platform) : (es : List Entry) → Layout p es
  | [] => .done ⟨[], by simp, by simp⟩
  | e :: es => .block ⟨[], by simp, by simp⟩ (.plain p e) (plain p es)

/-- **Reading takes back what was laid out.** Every list of entries has listings, and each of them has
exactly the records of the entries, in order. -/
theorem records_layout (p : Platform) (es : List Entry) :
    Nonempty (Layout p es) ∧ ∀ l : Layout p es, records p l.text = es.map (Entry.record · p) :=
  ⟨⟨.plain p es⟩, Layout.records_text⟩

end ExportSurface.Listing
