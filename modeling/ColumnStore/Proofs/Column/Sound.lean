import ColumnStore.Column
import ColumnStore.Proofs.Refusal

/-!
# Sound columns

A column is sound for a count of rows when its storage kind is that of its type, the storage and
the bitmap both have that many entries, and the type admits every value and the stored default.
Soundness is what makes pushes total: no value that was converted or cast is refused by the
storage. The operations that go through checked pushes are therefore restated here without them.
-/

namespace ColumnStore

/-- The values that a column of the type can hold. -/
def ColumnType.Admits : ColumnType → Value → Prop
  | _, .null => True
  | integer, .integer _ => True
  | varchar limit, .text s => s.length ≤ limit.toNat
  | _, _ => False

/-- The storage kind is the one that the type asks for. -/
def Cells.HasType : Cells → ColumnType → Prop
  | integers _, .integer => True
  | texts _, .varchar _ => True
  | _, _ => False

theorem Cells.hasType_empty (type : ColumnType) : (empty type).HasType type := by
  cases type <;> trivial

theorem Cells.HasType.push? {cells : Cells} {type : ColumnType} {value : Value}
    (storage : cells.HasType type) (admitted : type.Admits value) :
    ∃ pushed, cells.push? value = some pushed ∧ pushed.HasType type := by
  cases cells <;> cases type <;> cases value <;>
    first
    | exact ⟨_, rfl, trivial⟩
    | exact storage.elim
    | exact admitted.elim

theorem Cells.HasType.clear {cells : Cells} {type : ColumnType} (storage : cells.HasType type) :
    cells.clear.HasType type := by
  cases cells <;> cases type <;> exact storage

@[simp] theorem Cells.size_clear (cells : Cells) : cells.clear.size = 0 := by
  cases cells <;> rfl

@[simp] theorem Cells.toList_clear (cells : Cells) : cells.clear.toList = [] := by
  cases cells <;> rfl

namespace Column.Definition

variable {d target : Definition} {value : Value}

theorem check_eq_ok_iff : d.check value = .ok () ↔ d.type.Admits value := by
  unfold check
  cases value <;> cases d.type <;> simp [ColumnType.Admits]

theorem admits_zeroValue (d : Definition) : d.type.Admits d.zeroValue := by
  rw [zeroValue]
  cases d.type <;> simp [ColumnType.Admits]

/-- A converted literal is admitted if the stored default is. -/
theorem admits_of_convert {literal : Literal} (h : d.convert literal = .ok value)
    (default : ∀ v, d.default = some v → d.type.Admits v) : d.type.Admits value := by
  unfold convert at h
  split at h
  · cases h
    trivial
  · cases stored : d.default with
    | none => simp [stored] at h
    | some v =>
      simp only [stored, Except.ok.injEq] at h
      exact h ▸ default v stored
  · next integer =>
    cases h
    simp [integer, ColumnType.Admits]
  · simp at h
  · simp at h
  · obtain ⟨u, checked, same⟩ := map_eq_ok_iff.mp h
    exact same ▸ check_eq_ok_iff.mp checked

theorem admits_of_cast {result : Value} (h : target.cast value = .ok result) :
    target.type.Admits result := by
  have last {v : Value} (h : (do target.check v; return v) = Except.ok result) :
      target.type.Admits result := by
    obtain ⟨u, checked, same⟩ := bind_eq_ok_iff.mp h
    exact pure_eq_ok_iff.mp same ▸ check_eq_ok_iff.mp checked
  unfold cast at h
  split at h
  · exact last h
  · split at h
    · exact last h
    · cases h
  · exact last h

theorem admits_of_castDefault {old new : Option Value} (h : target.castDefault old = .ok new) :
    ∀ v, new = some v → target.type.Admits v := by
  rintro v rfl
  cases old with
  | none => cases h
  | some value =>
    obtain ⟨result, cast, same⟩ := map_eq_ok_iff.mp h
    exact Option.some.inj same ▸ admits_of_cast cast

end Column.Definition

namespace Column

variable {c : Column} {d target : Definition} {value : Value} {values : List Value} {count : Nat}

structure Sound (c : Column) (count : Nat) : Prop where
  storage : c.cells.HasType c.definition.type
  stored : c.cells.size = count
  marked : c.nulls.size = count
  default : ∀ value, c.definition.default = some value → c.definition.type.Admits value
  admitted : ∀ value ∈ c.values, c.definition.type.Admits value

theorem Sound.aligned (h : c.Sound count) : c.Aligned := h.marked.trans h.stored.symm

theorem Sound.length_values (h : c.Sound count) : c.values.length = count :=
  (Column.length_values h.aligned).trans h.marked

theorem sound_empty (default : ∀ value, d.default = some value → d.type.Admits value) :
    (empty d).Sound 0 where
  storage := Cells.hasType_empty d.type
  stored := by simp [empty, ← Cells.length_toList]
  marked := rfl
  default := default
  admitted := by simp

/-! ## Appending values -/

/-- The column with one more value, where its storage takes the value. -/
def appended (c : Column) (value : Value) : Column :=
  { c with cells := (c.cells.push? value).getD c.cells, nulls := c.nulls.push value.isNull }

/-- An empty column filled with values in turn. -/
def ofValues (d : Definition) (values : List Value) : Column := values.foldl appended (empty d)

@[simp] theorem definition_appended (c : Column) (value : Value) :
    (c.appended value).definition = c.definition := rfl

@[simp] theorem definition_foldl_appended (c : Column) (values : List Value) :
    (values.foldl appended c).definition = c.definition := by
  induction values generalizing c with
  | nil => rfl
  | cons value rest ih => exact ih (c.appended value)

@[simp] theorem definition_ofValues (d : Definition) (values : List Value) :
    (ofValues d values).definition = d :=
  definition_foldl_appended (empty d) values

theorem storage_appended (storage : c.cells.HasType c.definition.type)
    (admitted : c.definition.type.Admits value) :
    (c.appended value).cells.HasType (c.appended value).definition.type := by
  obtain ⟨pushed, taken, kept⟩ := storage.push? admitted
  simpa [appended, taken] using kept

/-- A push of an admitted value is never refused. -/
theorem push_eq (storage : c.cells.HasType c.definition.type)
    (admitted : c.definition.type.Admits value) : c.push value = .ok (c.appended value) := by
  obtain ⟨pushed, taken, _⟩ := storage.push? admitted
  simp only [push, Definition.check_eq_ok_iff.mpr admitted, taken, appended, Option.getD_some]
  rfl

theorem values_appended (h : c.Sound count) (admitted : c.definition.type.Admits value) :
    (c.appended value).values = c.values ++ [value] :=
  values_push h.aligned (push_eq h.storage admitted)

theorem Sound.appended (h : c.Sound count) (admitted : c.definition.type.Admits value) :
    (c.appended value).Sound (count + 1) where
  storage := storage_appended h.storage admitted
  stored := by
    have aligned := aligned_push h.aligned (push_eq h.storage admitted)
    rw [← aligned, Column.appended, Array.size_push, h.marked]
  marked := by rw [Column.appended, Array.size_push, h.marked]
  default := h.default
  admitted := by
    intro v member
    rw [values_appended h admitted] at member
    rcases List.mem_append.mp member with old | new
    · exact h.admitted v old
    · exact List.mem_singleton.mp new ▸ admitted

theorem Sound.foldl_appended (h : c.Sound count)
    (admitted : ∀ v ∈ values, c.definition.type.Admits v) :
    (values.foldl Column.appended c).Sound (count + values.length) ∧
      (values.foldl Column.appended c).values = c.values ++ values := by
  induction values generalizing c count with
  | nil => simpa using h
  | cons value rest ih =>
    have first := admitted value (by simp)
    have tail := ih (h.appended first) fun v member => admitted v (by simp [member])
    rw [values_appended h first] at tail
    simpa [Nat.add_assoc, Nat.add_comm 1] using tail

theorem sound_ofValues (default : ∀ v, d.default = some v → d.type.Admits v)
    (admitted : ∀ v ∈ values, d.type.Admits v) : (ofValues d values).Sound values.length := by
  simpa [ofValues] using ((sound_empty default).foldl_appended admitted).1

theorem values_ofValues (default : ∀ v, d.default = some v → d.type.Admits v)
    (admitted : ∀ v ∈ values, d.type.Admits v) : (ofValues d values).values = values := by
  simpa [ofValues] using ((sound_empty default).foldl_appended admitted).2

/-! ## Filling, casting and clearing -/

theorem pushCopies_eq (storage : c.cells.HasType c.definition.type)
    (admitted : c.definition.type.Admits value) :
    c.pushCopies value count = .ok ((List.replicate count value).foldl appended c) := by
  induction count generalizing c with
  | zero => rfl
  | succ count ih =>
    rw [pushCopies, push_eq storage admitted]
    exact ih (storage_appended storage admitted) admitted

/-- A column that holds the same value in every row. -/
def copies (d : Definition) (count : Nat) (value : Value) : Column :=
  ofValues d (List.replicate count value)

@[simp] theorem definition_copies (d : Definition) (count : Nat) (value : Value) :
    (copies d count value).definition = d :=
  definition_ofValues d _

/-- A new column is filled with any admitted value. -/
theorem filled_eq (admitted : d.type.Admits value) :
    filled d count value = .ok (copies d count value) := by
  rw [filled, Definition.check_eq_ok_iff.mpr admitted]
  exact pushCopies_eq (Cells.hasType_empty d.type) admitted

theorem admits_of_mem_replicate (admitted : d.type.Admits value) :
    ∀ v ∈ List.replicate count value, d.type.Admits v := by
  intro v member
  rw [List.eq_of_mem_replicate member]
  exact admitted

theorem sound_copies (default : ∀ v, d.default = some v → d.type.Admits v)
    (admitted : d.type.Admits value) : (copies d count value).Sound count := by
  have each : ∀ v ∈ List.replicate count value, d.type.Admits v := admits_of_mem_replicate admitted
  have sound := sound_ofValues default each
  rwa [List.length_replicate] at sound

theorem values_copies (default : ∀ v, d.default = some v → d.type.Admits v)
    (admitted : d.type.Admits value) :
    (copies d count value).values = List.replicate count value :=
  values_ofValues default (admits_of_mem_replicate admitted)

theorem foldlM_push_cast (storage : c.cells.HasType c.definition.type)
    (same : c.definition.type = target.type) :
    values.foldlM (fun column value => do column.push (← target.cast value)) c =
      (values.mapM target.cast).map (·.foldl appended c) := by
  induction values generalizing c with
  | nil => rfl
  | cons value rest ih =>
    rw [List.foldlM_cons, List.mapM_cons]
    cases cast : target.cast value with
    | error e => rfl
    | ok v =>
      have admitted : c.definition.type.Admits v := same ▸ Definition.admits_of_cast cast
      have tail := ih (storage_appended storage admitted) same
      simp only [bind, Except.bind, push_eq storage admitted] at tail ⊢
      rw [tail]
      cases rest.mapM target.cast <;> rfl

/-- A retyped column holds the cast default and the cast values, in this order of checking. -/
theorem retyped_eq (c : Column) (target : Definition) :
    c.retyped target = do
      let default ← target.castDefault c.definition.default
      let values ← c.values.mapM target.cast
      return ofValues { target with default } values := by
  have filling (default : Option Value) :
      c.values.foldlM (fun column value => do column.push (← target.cast value))
        (empty { target with default }) =
      (c.values.mapM target.cast).map (ofValues { target with default }) :=
    foldlM_push_cast (Cells.hasType_empty target.type) rfl
  cases casting : target.castDefault c.definition.default with
  | error e => simp [retyped, casting, bind, Except.bind]
  | ok default =>
    simp only [retyped, casting]
    refine (filling default).trans ?_
    cases c.values.mapM target.cast <;> rfl

theorem admits_of_mapM_cast {results : List Value} (h : values.mapM target.cast = .ok results) :
    ∀ v ∈ results, target.type.Admits v := by
  intro v member
  obtain ⟨i, inside, rfl⟩ := List.mem_iff_getElem.mp member
  have each := mapM_eq_ok_iff.mp h
  exact Definition.admits_of_cast (each.get (each.length_eq ▸ inside) inside)

theorem Sound.retyped {result : Column} (h : c.Sound count) (ok : c.retyped target = .ok result) :
    result.definition.name = target.name ∧ result.definition.type = target.type ∧
      result.Sound count := by
  rw [retyped_eq, bind_eq_ok_iff] at ok
  obtain ⟨default, casting, rest⟩ := ok
  obtain ⟨values, casts, built⟩ := bind_eq_ok_iff.mp rest
  rw [← pure_eq_ok_iff.mp built]
  have sound := sound_ofValues (d := { target with default })
    (Definition.admits_of_castDefault casting) (admits_of_mapM_cast casts)
  rw [length_mapM casts, h.length_values] at sound
  exact ⟨by simp, by simp, sound⟩

theorem Sound.clear (h : c.Sound count) : c.clear.Sound 0 where
  storage := h.storage.clear
  stored := Cells.size_clear c.cells
  marked := rfl
  default := h.default
  admitted := by simp [Column.clear, Column.values]

/-- The definition may change as long as the type stays and admits the new default. -/
theorem Sound.redefined (h : c.Sound count) (same : d.type = c.definition.type)
    (default : ∀ value, d.default = some value → d.type.Admits value) :
    ({ c with definition := d } : Column).Sound count where
  storage := same.symm ▸ h.storage
  stored := h.stored
  marked := h.marked
  default := default
  admitted := fun value member => same.symm ▸ h.admitted value member

end Column

end ColumnStore
