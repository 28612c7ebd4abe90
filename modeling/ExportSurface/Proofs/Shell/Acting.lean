import ExportSurface.Proofs.Shell.Reading
import ExportSurface.Shell.Execution

/-!
# Actions of the shell

What the actions do that commands are made of. An action takes the shell and the world to a result and to
what became of both, so each of them is opened by an `_apply` lemma.

* `Expansion.fields_bareWord`, `Expansion.fields_besideWord` and `Expansion.fields_parameters` expand
  words.
* `Action.follow_of_openFile` and `Action.follow_of_source` follow redirections.
-/

namespace ExportSurface.Shell

/-! ## Actions -/

namespace Action

variable {α β : Type} (m : Machine)

@[simp]
theorem bind_apply (a : Action α) (f : α → Action β) :
    (a >>= f) m = match a m with
      | (.ok x, m) => f x m
      | (.error e, m) => (.error e, m) := by
  rcases h : a m with ⟨e | x, m'⟩
  · simp only [bind, ExceptT.bind, ExceptT.mk, StateT.bind, ExceptT.bindCont, h]
    rfl
  · simp only [bind, ExceptT.bind, ExceptT.mk, StateT.bind, ExceptT.bindCont, h]

@[simp]
theorem pure_apply (x : α) : (pure x : Action α) m = (.ok x, m) := rfl

@[simp]
theorem map_apply (f : α → β) (a : Action α) :
    (f <$> a) m = match a m with
      | (.ok x, m) => (.ok (f x), m)
      | (.error e, m) => (.error e, m) := by
  rw [← bind_pure_comp]
  simp

@[simp]
theorem throw_apply (e : Stop) : (throw e : Action α) m = (.error e, m) := rfl

@[simp]
theorem tryCatch_apply (a : Action α) (f : Stop → Action α) :
    (tryCatch a f : Action α) m = match a m with
      | (.ok x, m) => (.ok x, m)
      | (.error e, m) => f e m := by
  rcases h : a m with ⟨e | x, m'⟩
  · simp only [tryCatch, tryCatchThe, MonadExceptOf.tryCatch, ExceptT.tryCatch, ExceptT.mk, bind,
      StateT.bind, h]
  · simp only [tryCatch, tryCatchThe, MonadExceptOf.tryCatch, ExceptT.tryCatch, ExceptT.mk, bind,
      StateT.bind, h]
    rfl

@[simp]
theorem get_apply : (get : Action Machine) m = (.ok m, m) := rfl

@[simp]
theorem set_apply (n : Machine) : (set n : Action PUnit) m = (.ok ⟨⟩, n) := rfl

@[simp]
theorem forM_nil_apply (f : α → Action PUnit) : ([] : List α).forM f m = (.ok ⟨⟩, m) := rfl

@[simp]
theorem shell_apply : shell m = (.ok m.shell, m) := rfl

@[simp]
theorem change_apply (f : State → State) :
    change f m = (.ok (), { m with shell := f m.shell }) := rfl

@[simp]
theorem ask_apply (f : World → Except SystemError (α × World)) :
    ask f m = match f m.world with
      | .ok (x, world) => (.ok (.ok x), { m with world })
      | .error e => (.ok (.error e), m) := by
  simp only [ask, bind_apply, get_apply]
  cases f m.world <;> simp

@[simp]
theorem setStatus_apply (n : Nat) :
    setStatus n m = (.ok (), { m with shell := { m.shell with status := n } }) := rfl

@[simp]
theorem isOn_apply (letter : Char) : isOn letter m = (.ok (letter ∈ m.shell.options), m) := rfl

variable {m}

theorem print_of_writeTo {d : Nat} {t : Text} {world : World} (ht : t ≠ [])
    (h : m.world.writeTo m.shell.descriptors d t.bytes = .ok world) :
    print d t m = (.ok true, { m with world }) := by
  simp [print, ht, h, Except.map]

theorem number_of_digits {command w : Text} {n : Nat} (hw : w = Nat.toDigits 10 n)
    (hn : n ≤ greatestNumber) : number command w m = (.ok n, m) := by
  subst hw
  have hvalue : Nat.ofDigitChars 10 (Nat.toDigits 10 n) 0 = n := Nat.ofDigitChars_ten_toDigits
  have hdigits : (Nat.toDigits 10 n).all Char.isDigit :=
    List.all_eq_true.2 fun c hc => Nat.isDigit_of_mem_toDigits (by decide) (by decide) hc
  simp [number, hvalue, hdigits, Nat.not_lt.2 hn, Nat.toDigits_ne_nil]

end Action

/-! ## States -/

namespace State

/-- The state in which the command of a line is run. -/
def atLine (s : State) (line : Nat) : State := { s with line, outputStatus := 0 }

/-- The state with other descriptors. -/
def withDescriptors (s : State) (ds : Descriptors) : State := { s with descriptors := ds }

/-- The state after a command that left a status. -/
def withStatus (s : State) (n : Nat) : State := { s with status := n }

end State

open ExportSurface.Shell.Action

variable {m m₁ : Machine}

/-! ## Words -/

namespace Expansion

variable {output : Taker} {p : Part} {w : Word} {is js : List Item}

/-- A word stands for what its parts stand for, one after the other. -/
theorem flatten_mapM_cons {α : Type} {f : Part → Action (List α)} {as bs : List α}
    (hp : f p m = (.ok as, m))
    (hw : (do return (← w.mapM f).flatten : Action (List α)) m = (.ok bs, m)) :
    (do return (← (p :: w).mapM f).flatten : Action (List α)) m = (.ok (as ++ bs), m) := by
  simp only [List.mapM_cons, bind_apply, hp, pure_apply] at hw ⊢
  rcases h : w.mapM f m with ⟨e | ls, m'⟩ <;> rw [h] at hw
  · cases hw
  · cases hw
    rfl

theorem items_cons (hp : part output p m = (.ok is, m)) (hw : items output w m = (.ok js, m)) :
    items output (p :: w) m = (.ok (is ++ js), m) :=
  flatten_mapM_cons hp hw

theorem items_text (t : Text) (q : Bool) :
    items output (t.map (Part.char · q)) m = (.ok (t.map (.char · q false)), m) := by
  induction t with
  | nil => rfl
  | cons c r ih => exact items_cons (p := .char c q) rfl ih

theorem fields_of_items (hw : w ≠ [.quotation, .parameter ['@'] true])
    (h : items output w m = (.ok is, m)) : fields output w m = (.ok (divide none is), m) := by
  simp only [fields, if_neg hw, bind_apply, h, pure_apply]

theorem divide_text (f t : Text) (q : Bool) :
    divide (some f) (t.map (.char · q false)) = [f ++ t] := by
  induction t generalizing f with
  | nil => simp [divide]
  | cons c r ih => simp [divide, ih]

/-- A bare word stands for itself. -/
theorem fields_bareWord {t : Text} (ht : t ≠ []) : fields output (bareWord t) m = (.ok [t], m) := by
  obtain ⟨c, r, rfl⟩ := List.exists_cons_of_ne_nil ht
  have hitems : items output (bareWord (c :: r)) m =
      (.ok ((c :: r).map (.char · false false)), m) :=
    items_text (c :: r) false
  rw [fields_of_items (by simp [bareWord]) hitems]
  simp [divide, divide_text]

/-- So does a text between quotes. -/
theorem fields_quoted (t : Text) :
    fields output (.quotation :: t.map (Part.char · true)) m = (.ok [t], m) := by
  have htext : items output (t.map (Part.char · true)) m = _ := items_text t true
  have hitems := items_cons (p := .quotation) rfl htext
  refine (fields_of_items (by simp) hitems).trans ?_
  rw [List.singleton_append, divide, divide_text]
  rfl

/-- All parameters between quotes stand for a word each. -/
theorem fields_parameters :
    fields output [.quotation, .parameter ['@'] true] m = (.ok m.shell.parameters, m) := by
  simp [fields]

theorem value_name (q : Bool) : value output (.parameter ['0'] q) m = (.ok m.shell.name, m) := by
  have hvalue : m.shell.value? ['0'] = some m.shell.name := rfl
  have hparameter : (!isParameter ['0']) = false := rfl
  simp only [value, hparameter, Bool.false_eq_true, if_false, bind_apply, shell_apply, hvalue,
    pure_apply]

theorem part_parameter (name : Text) (q : Bool) :
    part output (.parameter name q) =
      do return (← value output (.parameter name q)).map fun c => .char c q (!q) := rfl

/-- The word that names a file beside the script. -/
def besideWord (ending : Text) : Word :=
  .quotation :: .parameter ['0'] true :: ending.map (Part.char · true)

theorem fields_besideWord (ending : Text) :
    fields output (besideWord ending) m = (.ok [m.shell.name ++ ending], m) := by
  have hname : part output (.parameter ['0'] true) m =
      (.ok (m.shell.name.map (.char · true false)), m) := by
    simp only [part_parameter, bind_apply, value_name, pure_apply, Bool.not_true]
  have hitems := items_cons (p := .quotation) rfl (items_cons hname (items_text ending true))
  rw [← List.map_append] at hitems
  refine (fields_of_items (by simp) hitems).trans ?_
  rw [List.singleton_append, divide, divide_text]
  rfl

theorem single_cons {t u : Text} (hp : value output p m = (.ok t, m))
    (hw : single output w m = (.ok u, m)) :
    single output (p :: w) m = (.ok (t ++ u), m) :=
  flatten_mapM_cons hp hw

theorem single_text (t : Text) (q : Bool) :
    single output (t.map (Part.char · q)) m = (.ok t, m) := by
  induction t with
  | nil => rfl
  | cons c r ih => exact single_cons (p := .char c q) rfl ih

theorem single_besideWord (ending : Text) :
    single output (besideWord ending) m = (.ok (m.shell.name ++ ending), m) :=
  single_cons (p := .quotation) (t := []) rfl (single_cons (value_name true) (single_text ending true))

end Expansion

/-! ## Redirections -/

namespace Action

theorem follow_nil {s : State} {w : World} :
    follow [] ⟨s, w⟩ = (.ok true, ⟨s.withDescriptors s.descriptors, w⟩) := by
  simp [follow, State.withDescriptors]

theorem follow_of_followOne {target : Target} (h : followOne target m = (.ok (), m₁)) :
    follow [target] m = (.ok true, m₁) := by
  have hall : [target].forM followOne m = (.ok ⟨⟩, m₁) := by
    show (followOne target >>= fun _ => (pure ⟨⟩ : Action PUnit)) m = _
    simp only [bind_apply, h, pure_apply]
  simp only [follow, tryCatch_apply, bind_apply, hall, pure_apply]

theorem follow_of_openFile {s : State} {w w₁ : World} {d k : Nat} {use : FileUse} {name : Text}
    (h : w.openFile (.ofBytes name) use = .ok (k, w₁)) :
    follow [.file d use name] ⟨s, w⟩ =
      (.ok true, ⟨s.withDescriptors ((d, k) :: s.descriptors.filter (·.1 ≠ d)), w₁⟩) := by
  refine follow_of_followOne ?_
  simp only [followOne, bind_apply, ask_apply, h, lead, change_apply]
  rfl

theorem follow_of_source {s : State} {w : World} {d k : Nat} {source : Text}
    (h : Action.source s.descriptors source = .ok (some k)) :
    follow [.copy d source] ⟨s, w⟩ =
      (.ok true, ⟨s.withDescriptors ((d, k) :: s.descriptors.filter (·.1 ≠ d)), w⟩) := by
  refine follow_of_followOne ?_
  simp only [followOne, bind_apply, shell_apply, h, lead, change_apply]
  rfl

end Action

end ExportSurface.Shell
