import ExportSurface.Listing.Block
import ExportSurface.Proofs.Text.Pieces
import ExportSurface.Proofs.Text.Words

/-!
# Scanning for blocks

A `Block` of a text is any place where a block can be read; blocks may overlap. A list of blocks is
a scan (`IsScan`) if its blocks follow one another without overlap and every block that it leaves
out starts inside an earlier one of the list.

* `exists_first_opening` and `body?_eq_none_iff`: `body?` finds the first opening of a stretch.
* `exists_scan`: every text has a scan whose bodies are the ones that `bodies` gives. The induction
  is on the stretches; no block reaches over a closing brace (`Block.ofOpening_or_lift`).
-/

namespace ExportSurface.Listing

/-! ## Blocks -/

/-- A block of a text, with what stands before and after it. -/
@[ext]
structure Block (marker raw : Text) where
  before : Text
  /-- What stands between the marker and the opening brace. -/
  gap : Text
  body : Text
  after : Text
  text_eq : raw = before ++ marker ++ gap ++ '{' :: body ++ '}' :: after
  not_after_word : ∀ c ∈ before.getLast?, ¬isWordChar c
  gap_blank : ∀ c ∈ gap, isBlank c
  body_closed : '}' ∉ body

namespace Block

variable {marker raw : Text}

/-- The place of the marker. -/
def start (b : Block marker raw) : Nat := b.before.length

/-- The place behind the closing brace. -/
def stop (b : Block marker raw) : Nat :=
  b.start + marker.length + b.gap.length + b.body.length + 2

end Block

/-- The blocks of the list follow one another, and every other block starts inside one of them. -/
structure IsScan {marker raw : Text} (bs : List (Block marker raw)) : Prop where
  disjoint : bs.Pairwise fun a b => a.stop ≤ b.start
  complete : ∀ b, b ∈ bs ∨ ∃ a ∈ bs, a.start < b.start ∧ b.start < a.stop

theorem not_mem_of_blank {s : Text} {c : Char} (hs : ∀ c ∈ s, isBlank c)
    (hc : isBlank c = false) : c ∉ s :=
  fun hm => by simp [hs c hm] at hc

namespace Block

variable {marker raw : Text}

/-- A block is determined by its place. -/
theorem eq_of_start_eq {a b : Block marker raw} (h : a.start = b.start) : a = b := by
  have htext := a.text_eq.symm.trans b.text_eq
  simp only [List.append_assoc] at htext
  obtain ⟨hbefore, htext⟩ := List.append_inj htext h
  obtain ⟨hgap, htext⟩ := append_cons_inj_of_not_mem
    (not_mem_of_blank a.gap_blank (by decide)) (not_mem_of_blank b.gap_blank (by decide))
    (List.append_cancel_left htext)
  obtain ⟨hbody, hafter⟩ := append_cons_inj_of_not_mem a.body_closed b.body_closed htext
  exact Block.ext hbefore hgap hbody hafter

end Block

/-! ## Openings -/

/-- An opening of a block in a text. Before the text stands a word character or not. -/
structure Opening (marker : Text) (afterWord : Bool) (s : Text) where
  before : Text
  gap : Text
  body : Text
  text_eq : s = before ++ marker ++ gap ++ '{' :: body
  not_after_word : (before.getLast?.map isWordChar).getD afterWord = false
  gap_blank : ∀ c ∈ gap, isBlank c

theorem opened?_eq_some_iff {marker s body : Text} :
    opened? marker s = some body ↔
      ∃ gap, s = marker ++ gap ++ '{' :: body ∧ ∀ c ∈ gap, isBlank c := by
  simp only [opened?, Option.bind_eq_some_iff, dropPrefix?_eq_some_iff]
  constructor
  · rintro ⟨r, rfl, hr⟩
    refine ⟨r.takeWhile isBlank, ?_, fun c hc => List.mem_takeWhile_imp hc⟩
    rw [List.append_assoc, show '{' :: body = r.dropWhile isBlank from hr.symm,
      List.takeWhile_append_dropWhile]
  · rintro ⟨gap, rfl, hgap⟩
    refine ⟨gap ++ '{' :: body, List.append_assoc .., ?_⟩
    rw [List.dropWhile_append_of_pos hgap, List.dropWhile_cons_of_neg (by decide)]
    rfl

namespace Opening

variable {marker : Text} {w : Bool} {c : Char} {r : Text}

/-- An opening behind one more character. -/
def cons (o : Opening marker (isWordChar c) r) : Opening marker w (c :: r) where
  before := c :: o.before
  gap := o.gap
  body := o.body
  text_eq := congrArg (c :: ·) o.text_eq
  not_after_word := by
    have h := o.not_after_word
    rw [List.getLast?_cons]
    cases hl : o.before.getLast? <;> simpa [hl] using h
  gap_blank := o.gap_blank

/-- An opening is at the start of the text, or behind its first character. -/
theorem at_start_or_cons (o : Opening marker w (c :: r)) :
    (o.before = [] ∧ w = false ∧ opened? marker (c :: r) = some o.body) ∨
      ∃ o' : Opening marker (isWordChar c) r, o = o'.cons := by
  obtain ⟨before, gap, body, text_eq, not_after_word, gap_blank⟩ := o
  cases before with
  | nil =>
    exact .inl ⟨rfl, not_after_word, opened?_eq_some_iff.2 ⟨gap, text_eq, gap_blank⟩⟩
  | cons d before =>
    obtain ⟨rfl, rfl⟩ := List.cons.inj text_eq
    refine .inr ⟨⟨before, gap, body, rfl, ?_, gap_blank⟩, rfl⟩
    rw [List.getLast?_cons] at not_after_word
    cases hl : before.getLast? <;> simpa [hl] using not_after_word

end Opening

theorem body?_eq_none_iff {marker : Text} {w : Bool} {s : Text} :
    body? marker w s = none ↔ IsEmpty (Opening marker w s) := by
  induction s generalizing w with
  | nil => exact ⟨fun _ => ⟨fun o => by simpa using o.text_eq⟩, fun _ => by cases w <;> rfl⟩
  | cons c r ih =>
    have hstep : IsEmpty (Opening marker w (c :: r)) ↔
        (w = false → opened? marker (c :: r) = none) ∧ body? marker (isWordChar c) r = none := by
      rw [ih]
      constructor
      · refine fun h => ⟨fun hw => Option.eq_none_iff_forall_ne_some.2 fun body ho => ?_,
          ⟨fun o => h.false o.cons⟩⟩
        obtain ⟨gap, heq, hgap⟩ := opened?_eq_some_iff.1 ho
        exact h.false ⟨[], gap, body, heq, hw, hgap⟩
      · rintro ⟨hstart, hrest⟩
        refine ⟨fun o => ?_⟩
        rcases o.at_start_or_cons with ⟨-, hw, ho⟩ | ⟨o', -⟩
        · rw [hstart hw] at ho
          cases ho
        · exact hrest.false o'
    rw [hstep]
    cases w with
    | true => simp [body?]
    | false =>
      rw [body?]
      cases ho : opened? marker (c :: r) <;> simp

/-- What `body?` finds is the body of the first opening. -/
theorem exists_first_opening {marker : Text} {w : Bool} {s body : Text}
    (h : body? marker w s = some body) :
    ∃ o : Opening marker w s, o.body = body ∧
      ∀ o' : Opening marker w s, o.before.length ≤ o'.before.length := by
  induction s generalizing w with
  | nil => cases w <;> cases h
  | cons c r ih =>
    have behind (h : body? marker (isWordChar c) r = some body)
        (hnone : w = false → opened? marker (c :: r) = none) :
        ∃ o : Opening marker w (c :: r), o.body = body ∧
          ∀ o' : Opening marker w (c :: r), o.before.length ≤ o'.before.length := by
      obtain ⟨o, ho, hfirst⟩ := ih h
      refine ⟨o.cons, ho, fun o' => ?_⟩
      rcases o'.at_start_or_cons with ⟨-, hw, hopen⟩ | ⟨o'', rfl⟩
      · rw [hnone hw] at hopen
        cases hopen
      · exact Nat.succ_le_succ (hfirst o'')
    cases w with
    | true => exact behind h (by simp)
    | false =>
      rw [body?] at h
      cases ho : opened? marker (c :: r) with
      | none =>
        rw [ho] at h
        exact behind h fun _ => ho
      | some b =>
        rw [ho] at h
        obtain rfl := Option.some.inj h
        obtain ⟨gap, heq, hgap⟩ := opened?_eq_some_iff.1 ho
        exact ⟨⟨[], gap, b, heq, rfl, hgap⟩, rfl, fun _ => Nat.zero_le _⟩

/-! ## Blocks of a text that is cut at a closing brace -/

namespace Block

variable {marker s r : Text}

/-- An opening of a stretch makes a block with the closing brace that ends the stretch. -/
def ofOpening (o : Opening marker false s) (hs : '}' ∉ s) (r : Text) :
    Block marker (s ++ '}' :: r) where
  before := o.before
  gap := o.gap
  body := o.body
  after := r
  text_eq := congrArg (· ++ '}' :: r) o.text_eq
  not_after_word := by
    intro c hc
    have h := o.not_after_word
    rw [Option.mem_def.1 hc] at h
    simpa using h
  gap_blank := o.gap_blank
  body_closed := fun hm => hs (by rw [o.text_eq]; simp [hm])

/-- A block behind one more stretch. -/
def lift (b : Block marker r) (s : Text) : Block marker (s ++ '}' :: r) where
  before := s ++ '}' :: b.before
  gap := b.gap
  body := b.body
  after := b.after
  text_eq := by
    conv_lhs => rw [b.text_eq]
    simp
  not_after_word := by
    intro c hc
    rw [List.getLast?_append, List.getLast?_cons] at hc
    cases hl : b.before.getLast? with
    | none =>
      obtain rfl : '}' = c := by simpa [hl] using hc
      decide
    | some d =>
      obtain rfl : d = c := by simpa [hl] using hc
      exact b.not_after_word d hl
  gap_blank := b.gap_blank
  body_closed := b.body_closed

@[simp] theorem start_lift (b : Block marker r) (s : Text) :
    (b.lift s).start = s.length + 1 + b.start := by
  simp only [start, lift, List.length_append, List.length_cons]
  omega

@[simp] theorem stop_lift (b : Block marker r) (s : Text) :
    (b.lift s).stop = s.length + 1 + b.stop := by
  have hstart := b.start_lift s
  change (b.lift s).start + marker.length + b.gap.length + b.body.length + 2 =
    s.length + 1 + (b.start + marker.length + b.gap.length + b.body.length + 2)
  omega

@[simp] theorem stop_ofOpening (o : Opening marker false s) (hs : '}' ∉ s) (r : Text) :
    (ofOpening o hs r).stop = s.length + 1 := by
  have hlen := congrArg List.length o.text_eq
  simp only [List.length_append, List.length_cons] at hlen
  change o.before.length + marker.length + o.gap.length + o.body.length + 2 = s.length + 1
  omega

/-- **No block reaches over a closing brace.** -/
theorem ofOpening_or_lift (hm : '}' ∉ marker) (hs : '}' ∉ s) (b : Block marker (s ++ '}' :: r)) :
    (∃ o, b = ofOpening o hs r) ∨ ∃ b' : Block marker r, b = b'.lift s := by
  obtain ⟨before, gap, body, after, text_eq, not_after_word, gap_blank, body_closed⟩ := b
  rcases not_mem_or_eq_append_cons '}' before with hb | ⟨a, before, ha, rfl⟩
  · have hopen : '}' ∉ before ++ marker ++ gap ++ '{' :: body := by
      simp [hb, hm, body_closed, not_mem_of_blank (c := '}') gap_blank (by decide)]
    obtain ⟨heq, rfl⟩ := append_cons_inj_of_not_mem hs hopen text_eq
    refine .inl ⟨⟨before, gap, body, heq, ?_, gap_blank⟩, rfl⟩
    cases hl : before.getLast? with
    | none => rfl
    | some c => simpa using not_after_word c hl
  · have htext : s ++ '}' :: r =
        a ++ '}' :: (before ++ marker ++ gap ++ '{' :: body ++ '}' :: after) := by
      simpa using text_eq
    obtain ⟨rfl, heq⟩ := append_cons_inj_of_not_mem hs ha htext
    refine .inr ⟨⟨before, gap, body, after, heq, fun c hc => ?_, gap_blank, body_closed⟩, rfl⟩
    refine not_after_word c ?_
    rw [List.getLast?_append, List.getLast?_cons, Option.mem_def.1 hc]
    rfl

theorem isEmpty_of_not_mem (h : '}' ∉ s) : IsEmpty (Block marker s) :=
  ⟨fun b => h (by rw [b.text_eq]; simp)⟩

end Block

/-! ## Stretches -/

theorem stretches_of_not_mem {s : Text} (h : '}' ∉ s) : stretches s = [] := by
  rw [stretches, pieces_of_not_mem h]
  rfl

/-- What stands before a closing brace consists of stretches. -/
theorem stretches_append_closing (s r : Text) :
    stretches (s ++ '}' :: r) = pieces '}' s ++ stretches r := by
  rw [stretches, pieces_append_cons, List.dropLast_append_of_ne_nil (pieces_ne_nil '}' r), stretches]

theorem stretches_append_cons {s : Text} (h : '}' ∉ s) (r : Text) :
    stretches (s ++ '}' :: r) = s :: stretches r := by
  rw [stretches_append_closing, pieces_of_not_mem h, List.singleton_append]

theorem bodies_append_cons (marker : Text) {s : Text} (h : '}' ∉ s) (r : Text) :
    bodies marker (s ++ '}' :: r) = (body? marker false s).toList ++ bodies marker r := by
  rw [bodies, stretches_append_cons h, List.filterMap_cons, bodies]
  cases body? marker false s <;> rfl

/-! ## The scan -/

variable {marker s r : Text} {bs : List (Block marker r)}

/-- A stretch without an opening adds no block to a scan. -/
theorem IsScan.lift (hm : '}' ∉ marker) (hs : '}' ∉ s) (h : IsScan bs)
    (hnone : IsEmpty (Opening marker false s)) : IsScan (bs.map (Block.lift · s)) where
  disjoint := by
    refine List.pairwise_map.2 (h.disjoint.imp fun {a b} hab => ?_)
    simp only [Block.stop_lift, Block.start_lift]
    omega
  complete := by
    intro b
    rcases b.ofOpening_or_lift hm hs with ⟨o, -⟩ | ⟨b, rfl⟩
    · exact (hnone.false o).elim
    · rcases h.complete b with hb | ⟨a, ha, h₁, h₂⟩
      · exact .inl (List.mem_map_of_mem hb)
      · refine .inr ⟨a.lift s, List.mem_map_of_mem ha, ?_, ?_⟩
        · simp only [Block.start_lift]
          omega
        · simp only [Block.start_lift, Block.stop_lift]
          omega

/-- A stretch with an opening adds the block of its first opening to a scan. -/
theorem IsScan.cons_lift (hm : '}' ∉ marker) (hs : '}' ∉ s) (h : IsScan bs)
    (o : Opening marker false s)
    (hfirst : ∀ o' : Opening marker false s, o.before.length ≤ o'.before.length) :
    IsScan (Block.ofOpening o hs r :: bs.map (Block.lift · s)) where
  disjoint := by
    refine List.pairwise_cons.2 ⟨fun b hb => ?_, List.pairwise_map.2 (h.disjoint.imp ?_)⟩
    · obtain ⟨b, -, rfl⟩ := List.mem_map.1 hb
      simp only [Block.stop_ofOpening, Block.start_lift]
      omega
    · intro a b hab
      simp only [Block.stop_lift, Block.start_lift]
      omega
  complete := by
    intro b
    rcases b.ofOpening_or_lift hm hs with ⟨o', rfl⟩ | ⟨b, rfl⟩
    · rcases (hfirst o').eq_or_lt with heq | hlt
      · have hsame : Block.ofOpening o hs r = Block.ofOpening o' hs r := Block.eq_of_start_eq heq
        exact .inl (hsame ▸ List.mem_cons_self)
      · have hin : (Block.ofOpening o' hs r).start < (Block.ofOpening o' hs r).stop := by
          simp only [Block.stop]
          omega
        refine .inr ⟨_, List.mem_cons_self, hlt, ?_⟩
        rwa [Block.stop_ofOpening] at hin ⊢
    · rcases h.complete b with hb | ⟨a, ha, h₁, h₂⟩
      · exact .inl (List.mem_cons_of_mem _ (List.mem_map_of_mem hb))
      · refine .inr ⟨a.lift s, List.mem_cons_of_mem _ (List.mem_map_of_mem ha), ?_, ?_⟩
        · simp only [Block.start_lift]
          omega
        · simp only [Block.start_lift, Block.stop_lift]
          omega

/-- **Every text has a scan**, and its bodies are the bodies of the text. -/
theorem exists_scan (hm : '}' ∉ marker) (raw : Text) :
    ∃ bs : List (Block marker raw), IsScan bs ∧ bs.map Block.body = bodies marker raw := by
  induction raw using cutInduction '}' with
  | whole s hs =>
    refine ⟨[], ⟨.nil, fun b => ((Block.isEmpty_of_not_mem hs).false b).elim⟩, ?_⟩
    rw [bodies, stretches_of_not_mem hs]
    rfl
  | cut s r hs ih =>
    obtain ⟨bs, hscan, hbodies⟩ := ih
    have hmap : (bs.map (Block.lift · s)).map Block.body = bodies marker r := by
      rw [← hbodies, List.map_map]
      rfl
    cases hb : body? marker false s with
    | none =>
      refine ⟨_, hscan.lift hm hs (body?_eq_none_iff.1 hb), ?_⟩
      rw [bodies_append_cons marker hs, hb, hmap]
      rfl
    | some body =>
      obtain ⟨o, rfl, hfirst⟩ := exists_first_opening hb
      refine ⟨_, hscan.cons_lift hm hs o hfirst, ?_⟩
      rw [bodies_append_cons marker hs, hb, List.map_cons, hmap]
      rfl

end ExportSurface.Listing
