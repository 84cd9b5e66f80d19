import ColumnStore.Table.Spelling

/-!
# Two spellings side by side

Two computations that spell columns differently are followed step by step: where each step of the one
gives what the same step of the other gives, or both are refused for one fault, so it is with the
whole. The steps of a definition and of a column depend on the name only in the faults that tell it.
-/

namespace ColumnStore

open Text (SameName)

theorem Text.SameName.folded_eq {name name' : String} (same : SameName name name') :
    Text.folded name = Text.folded name' :=
  congrArg String.ofList same

theorem map_folded_eq {names names' : List String} (spelled : List.Forall₂ SameName names names') :
    names.map Text.folded = names'.map Text.folded := by
  rw [← List.forall₂_eq_eq_eq, List.forall₂_map_left_iff, List.forall₂_map_right_iff]
  exact spelled.imp fun _ _ same => same.folded_eq

/-! ## Two computations side by side -/

namespace SameUpToSpelling

variable {α β γ δ : Type} {R S : α → β → Prop} {T : γ → δ → Prop} {x : Except Fault α}
  {y : Except Fault β} {e e' : Fault}

theorem refl (x : Except Fault α) : SameUpToSpelling Eq x x := by
  cases x with
  | error e => exact .refused rfl
  | ok a => exact .answered rfl

theorem imp (h : SameUpToSpelling R x y) (weaker : ∀ a b, R a b → S a b) :
    SameUpToSpelling S x y := by
  cases h with
  | answered related => exact .answered (weaker _ _ related)
  | refused same => exact .refused same

theorem bind {f : α → Except Fault γ} {g : β → Except Fault δ} (first : SameUpToSpelling R x y)
    (next : ∀ a b, R a b → SameUpToSpelling T (f a) (g b)) :
    SameUpToSpelling T (x >>= f) (y >>= g) := by
  cases first with
  | answered related => exact next _ _ related
  | refused same => exact .refused same

theorem map {f : α → γ} {g : β → δ} (first : SameUpToSpelling R x y)
    (next : ∀ a b, R a b → T (f a) (g b)) : SameUpToSpelling T (x.map f) (y.map g) := by
  cases first with
  | answered related => exact .answered (next _ _ related)
  | refused same => exact .refused same

/-- The same guard is passed by both or by neither. -/
theorem guard {p : Prop} [Decidable p] {f : γ → Except Fault α} {g : δ → Except Fault β}
    (same : e.folded = e'.folded) (rest : ¬ p → SameUpToSpelling R x y) :
    SameUpToSpelling R (if p then (throw e : Except Fault γ) >>= f else x)
      (if p then (throw e' : Except Fault δ) >>= g else y) := by
  split
  · exact .refused same
  · next passed => exact rest passed

theorem mapM {P : γ → δ → Prop} {f : γ → Except Fault α} {g : δ → Except Fault β} {as : List γ}
    {bs : List δ} (paired : List.Forall₂ P as bs)
    (each : ∀ a b, P a b → SameUpToSpelling R (f a) (g b)) :
    SameUpToSpelling (List.Forall₂ R) (as.mapM f) (bs.mapM g) := by
  induction paired with
  | nil => exact .answered .nil
  | cons first _ ih =>
    rw [List.mapM_cons, List.mapM_cons]
    refine (each _ _ first).bind fun a b related => ih.bind fun as bs others => ?_
    exact .answered (.cons related others)

theorem mapM_eq {P : γ → δ → Prop} {f : γ → Except Fault α} {g : δ → Except Fault α} {as : List γ}
    {bs : List δ} (paired : List.Forall₂ P as bs)
    (each : ∀ a b, P a b → SameUpToSpelling Eq (f a) (g b)) :
    SameUpToSpelling Eq (as.mapM f) (bs.mapM g) :=
  (mapM paired each).imp fun _ _ same => by rwa [List.forall₂_eq_eq_eq] at same

end SameUpToSpelling

/-! ## Definitions and columns -/

namespace Column

variable {d d' : Definition} {c c' : Column} {value : Value} {literal : Literal} {count : Nat}

namespace Definition.Respelled

theorem eq_renamed (h : d.Respelled d') : { d with name := d'.name } = d' := by
  cases d
  cases d'
  simpa using ⟨h.type, h.default⟩

theorem isNamed {name name' : String} (h : d.Respelled d') (same : SameName name name') :
    d.isNamed name = d'.isNamed name' := by
  rw [Definition.isNamed, Definition.isNamed, h.name, same]

theorem mismatch (h : d.Respelled d') (found : Misfit) :
    (d.mismatch found).folded = (d'.mismatch found).folded := by
  simp only [Definition.mismatch, Fault.folded, h.name.folded_eq, h.type]

theorem check (h : d.Respelled d') (value : Value) :
    SameUpToSpelling Eq (d.check value) (d'.check value) := by
  unfold Definition.check
  rw [← h.type]
  cases value with
  | null => exact .answered rfl
  | integer n =>
    cases d.type with
    | integer => exact .answered rfl
    | varchar limit => exact .refused (h.mismatch _)
  | text s =>
    cases d.type with
    | integer => exact .refused (h.mismatch _)
    | varchar limit =>
      dsimp only
      split
      · exact .answered rfl
      · refine .refused ?_
        simp only [Fault.folded, h.name.folded_eq]

theorem convert (h : d.Respelled d') (literal : Literal) :
    SameUpToSpelling Eq (d.convert literal) (d'.convert literal) := by
  unfold Definition.convert
  rw [← h.type, ← h.default]
  cases literal with
  | null => exact .answered rfl
  | default =>
    cases d.default with
    | some value => exact .answered rfl
    | none =>
      refine .refused ?_
      simp only [Fault.folded, h.name.folded_eq]
  | number n =>
    cases d.type with
    | integer => exact .answered rfl
    | varchar limit => exact .refused (h.mismatch _)
  | string s =>
    cases d.type with
    | integer => exact .refused (h.mismatch _)
    | varchar limit => exact (h.check (.text s)).map fun _ _ _ => rfl

end Definition.Respelled

/-- A column under the first name and the same column under the second. -/
def Twins (name name' : String) (c c' : Column) : Prop :=
  c.definition.name = name ∧ c.named name' = c'

variable {name name' : String}

theorem Twins.respelled (h : Twins name name' c c') (same : SameName name name') :
    c.definition.Respelled c'.definition := by
  obtain ⟨rfl, rfl⟩ := h
  exact ⟨same, rfl, rfl⟩

theorem Twins.push (h : Twins name name' c c') (same : SameName name name') (value : Value) :
    SameUpToSpelling (Twins name name') (c.push value) (c'.push value) := by
  have respelled := h.respelled same
  rw [Column.push, Column.push]
  refine (respelled.check value).bind fun _ _ _ => ?_
  obtain ⟨rfl, rfl⟩ := h
  cases taken : c.cells.push? value with
  | none =>
    simp only [named, taken]
    exact .refused (respelled.mismatch _)
  | some cells =>
    simp only [named, taken]
    exact .answered ⟨rfl, rfl⟩

theorem Twins.pushCopies (h : Twins name name' c c') (same : SameName name name') (value : Value)
    (count : Nat) :
    SameUpToSpelling (Twins name name') (c.pushCopies value count) (c'.pushCopies value count) := by
  induction count generalizing c c' with
  | zero => exact .answered h
  | succ count ih => exact (h.push same value).bind fun _ _ next => ih next

theorem filled_respelled (h : d.Respelled d') (count : Nat) (value : Value) :
    SameUpToSpelling (Twins d.name d'.name) (filled d count value) (filled d' count value) := by
  have start : Twins d.name d'.name (empty d) (empty d') := by
    refine ⟨rfl, ?_⟩
    conv_rhs => rw [← h.eq_renamed]
    rfl
  exact (h.check value).bind fun _ _ _ => start.pushCopies h.name value count

end Column

end ColumnStore
