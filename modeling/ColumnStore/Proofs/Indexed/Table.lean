import ColumnStore.Indexed.Table
import ColumnStore.Proofs.Table.Rows

/-!
# Tables stay inside their lists

On a sound table every operation by position has a result, which is the result of the operation as
it is defined without positions. The positions of columns come from a search in the columns and a
default is asked for only when there are as many as definitions; the rows of a column are as many in
its bitmap as in its storage; and a removal leaves the positions below it where they were.
-/

namespace ColumnStore

open Indexed

variable {α β : Type}

namespace Indexed

variable {x : Except Fault α}

@[simp]
theorem lift_ok (a : α) : lift (.ok a) = pure a := rfl

@[simp]
theorem access_some (a : α) : access (some a) = pure a := rfl

/-- What goes on after a computation without accesses may rely on its result. -/
theorem lift_bind_congr {f : α → Indexed β} {g : α → Except Fault β}
    (each : ∀ a, x = .ok a → f a = lift (g a)) : lift x >>= f = lift (x >>= g) := by
  cases x with
  | error e => rfl
  | ok a => exact each a rfl

theorem mapM_lift {as : List α} {f : α → Indexed β} {g : α → Except Fault β}
    (each : ∀ a ∈ as, f a = lift (g a)) : as.mapM f = lift (as.mapM g) := by
  induction as with
  | nil => rfl
  | cons a rest ih =>
    obtain ⟨first, others⟩ := List.forall_mem_cons.mp each
    rw [List.mapM_cons, List.mapM_cons, first, ih others]
    refine lift_bind_congr fun b _ => lift_bind_congr fun bs _ => rfl

theorem foldlM_lift {as : List α} {f : β → α → Indexed β} {g : β → α → Except Fault β} {b : β}
    (each : ∀ a ∈ as, ∀ b, f b a = lift (g b a)) : as.foldlM f b = lift (as.foldlM g b) := by
  induction as generalizing b with
  | nil => rfl
  | cons a rest ih =>
    obtain ⟨first, others⟩ := List.forall_mem_cons.mp each
    rw [List.foldlM_cons, List.foldlM_cons, first]
    exact lift_bind_congr fun b _ => ih others

theorem modify_eq {xs : List α} {i : Nat} {a : α} (entry : xs[i]? = some a) (f : α → α) :
    Indexed.modify xs i f = pure (xs.modify i f) := by
  rw [List.modify_eq_set_getElem?, Indexed.modify, entry]
  rfl

/-- Elements replaced at positions inside the list. -/
theorem foldlM_modify {xs : List α} {pairs : List (Nat × α)}
    (inside : ∀ pair ∈ pairs, pair.1 < xs.length) :
    pairs.foldlM (fun xs (i, a) => Indexed.modify xs i fun _ => a) xs =
      (pure (pairs.foldl (fun xs (i, a) => xs.set i a) xs) : Indexed (List α)) := by
  induction pairs generalizing xs with
  | nil => rfl
  | cons pair rest ih =>
    obtain ⟨i, a⟩ := pair
    obtain ⟨here, later⟩ := List.forall_mem_cons.mp inside
    have written : Indexed.modify xs i (fun _ => a) = pure (xs.set i a) := by
      rw [Indexed.modify, List.getElem?_eq_getElem here]
      rfl
    rw [List.foldlM_cons]
    simp only [written, pure_bind]
    exact ih (by simpa using later)

end Indexed

/-! ## Values of a column -/

namespace Column

variable {c : Column} {row : Nat}

theorem getAt_eq (aligned : c.Aligned) (row : Nat) : c.getAt row = pure (c.get? row) := by
  have sizes : c.nulls.size = c.cells.size := aligned
  by_cases past : c.size ≤ row
  · rw [getAt, if_pos past, get?, Array.getElem?_eq_none past]
  · have marked : row < c.nulls.size := Nat.lt_of_not_le past
    rw [getAt, if_neg past, get?, Array.getElem?_eq_getElem marked, access_some, pure_bind]
    cases storage : c.cells with
    | integers xs =>
      rw [storage] at sizes
      have stored : row < xs.size := lt_of_lt_of_eq marked sizes
      cases null : c.nulls[row] <;> simp [Cells.get?, stored]
    | texts xs =>
      rw [storage] at sizes
      have stored : row < xs.size := lt_of_lt_of_eq marked sizes
      cases null : c.nulls[row] <;> simp [Cells.get?, stored]

/-- The values of a column are read row by row. -/
theorem values_eq_map_get? (aligned : c.Aligned) :
    c.values = (List.range c.size).map fun row => (c.get? row).getD .null := by
  have length := length_values aligned
  refine List.ext_getElem (by simp [length]) fun row inside _ => ?_
  simp [get?_eq, inside]

theorem retypedAt_eq (aligned : c.Aligned) (target : Definition) :
    c.retypedAt target = lift (c.retyped target) := by
  refine lift_bind_congr fun default _ => ?_
  rw [values_eq_map_get? aligned, List.foldlM_map]
  refine foldlM_lift fun row _ column => ?_
  rw [getAt_eq aligned, pure_bind]

end Column

namespace Table

variable {t : Table}

theorem lt_of_positions {names : List String} {positions : List Nat}
    (located : names.mapM t.position = .ok positions) :
    ∀ i ∈ positions, i < t.columns.length := by
  refine forall_of_mapM located fun name _ i found => ?_
  obtain ⟨c, entry, _⟩ := getElem?_of_position found
  exact (List.getElem?_eq_some_iff.mp entry).1

/-! ## Slots -/

/-- The slots of the columns, as they are assigned so far. -/
def slotsOf (t : Table) (assigned : List (Nat × Literal)) : List (Option Literal) :=
  (List.range t.columns.length).map fun i => assigned.lookup i

theorem slotsOf_nil (t : Table) : t.slotsOf [] = .replicate t.columns.length none := by
  simp [slotsOf]

theorem set_slotsOf (t : Table) (i : Nat) (literal : Literal) (assigned : List (Nat × Literal)) :
    (t.slotsOf assigned).set i (some literal) = t.slotsOf ((i, literal) :: assigned) := by
  refine List.ext_getElem (by simp [slotsOf]) fun j _ _ => ?_
  rw [List.getElem_set]
  by_cases same : i = j
  · simp [slotsOf, same]
  · have other : (j == i) = false := by simpa using Ne.symm same
    simp [slotsOf, same, List.lookup_cons, other]

theorem fillSlots_eq (t : Table) (names : List String) (assigned : List (Nat × Literal))
    (pairs : List (String × Literal)) :
    t.fillSlots names (t.slotsOf assigned) pairs =
      lift ((t.assign names assigned pairs).map t.slotsOf) := by
  induction pairs generalizing assigned with
  | nil => rfl
  | cons pair rest ih =>
    obtain ⟨name, literal⟩ := pair
    rw [fillSlots, assign_cons, map_bind_eq]
    refine lift_bind_congr fun i found => ?_
    obtain ⟨_, entry, _⟩ := getElem?_of_position found
    have inside : i < t.columns.length := (List.getElem?_eq_some_iff.mp entry).1
    have slot : (t.slotsOf assigned)[i]? = some (assigned.lookup i) := by simp [slotsOf, inside]
    rw [slot, access_some, pure_bind]
    cases (assigned.lookup i).isSome with
    | true => rfl
    | false =>
      have written : Indexed.modify (t.slotsOf assigned) i (fun _ => some literal) =
          pure (t.slotsOf ((i, literal) :: assigned)) := by
        rw [Indexed.modify, slot, access_some, pure_bind, set_slotsOf]
      simp only [written, pure_bind, ih]
      rfl

/-- The columns' own spellings are accepted in their order. -/
theorem insertRow_columnNames {literals : List Literal}
    (full : literals.length = t.columns.length) :
    t.insertRow t.columnNames literals = t.store literals := by
  have pairs : t.columns.zip t.columnNames = t.columns.map fun c => (c, c.definition.name) := by
    simpa [columnNames] using
      List.zip_map' (f := id) (g := fun c : Column => c.definition.name) (l := t.columns)
  have width : t.columnNames.length = t.columns.length := List.length_map _
  rw [insertRow, if_neg (not_not.mpr width),
    if_neg (by simp [pairs, Column.Definition.isNamed]), if_neg (not_not.mpr full)]

theorem insertAt_eq (t : Table) (names : List String) (literals : List Literal) :
    t.insertAt names literals = some (t.insert names literals) := by
  rw [insertAt, insert]
  split
  · rfl
  · rw [← slotsOf_nil, fillSlots_eq]
    cases t.assign names [] (names.zip literals) with
    | error e => rfl
    | ok assigned =>
      refine congrArg some ?_
      rw [insertRow_columnNames (by simp [slotsOf])]
      refine congrArg t.store (List.ext_getElem (by simp [slotsOf]) fun i _ _ => ?_)
      simp [slotsOf]

/-! ## Queries -/

/-- Columns that stand at positions, read one after the other. -/
theorem mapM_access {chosen : List Nat} {columns : List Column} {f : Column → Indexed β}
    {g : Column → β} (found : List.Forall₂ (fun i c => t.columns[i]? = some c) chosen columns)
    (each : ∀ c ∈ columns, f c = pure (g c)) :
    (chosen.mapM fun i => access t.columns[i]? >>= f) = pure (columns.map g) := by
  induction found with
  | nil => rfl
  | cons entry _ ih =>
    obtain ⟨first, others⟩ := List.forall_mem_cons.mp each
    rw [List.mapM_cons, entry, access_some, pure_bind, first, pure_bind, ih others]
    rfl

/-- The columns at the positions that a query has chosen are projected. -/
theorem project_eq (sound : t.Sound) {chosen : List Nat} {columns : List Column}
    (found : List.Forall₂ (fun i c => t.columns[i]? = some c) chosen columns) :
    (do
      let rows ← (List.range t.rowCount).mapM fun row => chosen.mapM fun i => do
        let c ← access t.columns[i]?
        return (← c.getAt row).getD .null
      let names ← chosen.mapM fun i => do
        let c ← access t.columns[i]?
        return c.definition.name
      return ⟨names, rows⟩ : Indexed QueryResult) = pure (t.project columns) := by
  have listed : ∀ c ∈ columns, c ∈ t.columns := by
    induction found with
    | nil => exact List.forall_mem_nil _
    | cons entry _ ih => exact List.forall_mem_cons.mpr ⟨List.mem_of_getElem? entry, ih⟩
  have cells (row : Nat) : (chosen.mapM fun i => do
      let c ← access t.columns[i]?
      return (← c.getAt row).getD .null : Indexed Row) =
        pure (columns.map fun c => (c.get? row).getD .null) := by
    refine mapM_access found fun c member => ?_
    rw [Column.getAt_eq (sound c (listed c member)).aligned, pure_bind]
  have rows : ((List.range t.rowCount).mapM fun row => chosen.mapM fun i => do
      let c ← access t.columns[i]?
      return (← c.getAt row).getD .null : Indexed (List Row)) =
        pure (t.project columns).rows := by
    simp only [cells]
    exact List.mapM_pure
  have names := mapM_access (g := fun c => c.definition.name) found fun c _ => rfl
  rw [rows, pure_bind, names, pure_bind]
  rfl

theorem selectAt_eq (sound : t.Sound) (projection : Projection) :
    t.selectAt projection = lift (t.select projection) := by
  cases projection with
  | all =>
    have found : List.Forall₂ (fun (i : Nat) c => t.columns[i]? = some c)
        (List.range t.columns.length) t.columns := by
      refine List.forall₂_iff_get.mpr ⟨by simp, fun i _ _ => by simp⟩
    exact project_eq sound found
  | columns names =>
    rw [select, mapM_column_eq]
    cases located : names.mapM t.position with
    | error e =>
      rw [selectAt, located]
      rfl
    | ok chosen =>
      have found : List.Forall₂ (fun (i : Nat) c => t.columns[i]? = some c) chosen
          (chosen.filterMap (t.columns[·]?)) := by
        have within := lt_of_positions located
        clear located
        induction chosen with
        | nil => exact .nil
        | cons i rest ih =>
          obtain ⟨inside, others⟩ := List.forall_mem_cons.mp within
          have entry := List.getElem?_eq_getElem inside
          rw [List.filterMap_cons_some entry]
          exact .cons entry (ih others)
      rw [selectAt, located]
      exact project_eq sound found

end Table

end ColumnStore
