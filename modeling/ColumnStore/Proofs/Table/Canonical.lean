import ColumnStore.Proofs.Table.Retyping

/-!
# Canonical tables

Every call leaves canonical columns: a new column is filled or built by pushes, and a column that
stays is extended by a push, emptied or redefined under its type. In any catalog the storage of a
table therefore says no more than its definitions and values.
-/

namespace ColumnStore.Table

variable {t t' : Table} {new : List Column.Definition} {values : List Value} {i : Nat}

def Canonical (t : Table) : Prop := ∀ c ∈ t.columns, c.Canonical

theorem canonical_ofDefinitions (name : String) (definitions : List Column.Definition) :
    (ofDefinitions name definitions).Canonical := by
  intro c member
  obtain ⟨d, _, rfl⟩ := List.mem_map.mp member
  exact Column.canonical_empty d

theorem Canonical.withRow (built : t.Canonical) (sound : t.Sound) (admitted : t.Admits values) :
    (t.withRow values).Canonical := by
  intro c member
  obtain ⟨i, inside, rfl⟩ := List.mem_iff_getElem.mp member
  simp only [Table.withRow, List.getElem_zipWith]
  have bounds : i < t.columns.length ∧ i < values.length := by
    simpa [Table.withRow, Nat.lt_min] using inside
  have listed := List.getElem_mem bounds.1
  exact (built _ listed).appended (sound _ listed) (List.Forall₂.get admitted bounds.1 bounds.2)

theorem canonical_truncate (sound : t.Sound) : t.truncate.Canonical := by
  intro c member
  obtain ⟨old, listed, rfl⟩ := List.mem_map.mp member
  rw [Column.clear_eq_empty (sound old listed)]
  exact Column.canonical_empty old.definition

theorem Canonical.addColumns {defaults : Option (List Literal)} (built : t.Canonical)
    (h : t.addColumns new defaults = .ok t') : t'.Canonical := by
  obtain ⟨checked, rest⟩ := check_bind_eq_ok_iff.mp h
  have default (d : Column.Definition) (member : d ∈ new) :=
    ((checked_of_checkEach (checkNewColumns_eq_ok_iff.mp checked).2).1 d member).2.2
  have append {added : List Column} (each : ∀ c ∈ added, c.Canonical) :
      ({ t with columns := t.columns ++ added } : Table).Canonical :=
    fun c member => (List.mem_append.mp member).elim (built c) (each c)
  cases defaults with
  | none =>
    obtain ⟨columns, filling, added⟩ := bind_eq_ok_iff.mp rest
    rw [← pure_eq_ok_iff.mp added]
    refine append (forall_of_mapM filling fun d member c filled => ?_)
    rw [Column.filled_eq d.admits_zeroValue, Except.ok.injEq] at filled
    exact filled ▸ Column.canonical_copies (default d member) d.admits_zeroValue
  | some literals =>
    obtain ⟨_, rest⟩ := guard_eq_ok_iff.mp rest
    obtain ⟨columns, filling, added⟩ := bind_eq_ok_iff.mp rest
    rw [← pure_eq_ok_iff.mp added]
    refine append (forall_of_mapM filling fun ⟨d, literal⟩ member c filled => ?_)
    have stored := default d (List.of_mem_zip member).1
    obtain ⟨value, conversion, rfl⟩ :=
      map_eq_ok_iff.mp ((columnWithDefault_eq stored).symm.trans filled)
    have admitted := Column.Definition.admits_of_convert conversion stored
    exact Column.canonical_copies (fun v same => Option.some.inj same ▸ admitted) admitted

theorem Canonical.removeColumns {names : List String} (built : t.Canonical)
    (h : t.removeColumns names = .ok t') : t'.Canonical := by
  obtain ⟨doomed, _, rest⟩ := bind_eq_ok_iff.mp h
  obtain ⟨_, removed⟩ := guard_eq_ok_iff.mp rest
  rw [← pure_eq_ok_iff.mp removed]
  exact fun c member => built c ((kept_sublist doomed t.columns).subset member)

/-- A column may be redefined under its type. -/
theorem Canonical.modify {g : Column.Definition → Column.Definition} (built : t.Canonical)
    (same : ∀ d, (g d).type = d.type) :
    ({ t with columns := t.columns.modify i fun c => { c with definition := g c.definition } } :
      Table).Canonical := by
  intro c member
  rcases mem_modify member with old | ⟨old, listed, rfl⟩
  · exact built c old
  · exact (built old (List.mem_of_getElem? listed)).redefined (same old.definition)

theorem Canonical.renameColumn {old name : String} (built : t.Canonical)
    (h : t.renameColumn old name = .ok t') : t'.Canonical := by
  obtain ⟨i, _, rest⟩ := bind_eq_ok_iff.mp h
  obtain ⟨_, rest⟩ := check_bind_eq_ok_iff.mp rest
  obtain ⟨_, renamed⟩ := guard_eq_ok_iff.mp rest
  rw [← pure_eq_ok_iff.mp renamed]
  exact built.modify (g := fun d => { d with name }) fun _ => rfl

theorem Canonical.setDefault {name : String} {literal : Literal} (built : t.Canonical)
    (h : t.setDefault name literal = .ok t') : t'.Canonical := by
  obtain ⟨i, _, rest⟩ := bind_eq_ok_iff.mp h
  obtain ⟨_, _, rest⟩ := bind_eq_ok_iff.mp rest
  obtain ⟨_, rest⟩ := guard_eq_ok_iff.mp rest
  obtain ⟨value, _, stored⟩ := bind_eq_ok_iff.mp rest
  rw [← pure_eq_ok_iff.mp stored]
  exact built.modify (g := fun d => { d with default := some value }) fun _ => rfl

theorem Canonical.dropDefault {name : String} (built : t.Canonical)
    (h : t.dropDefault name = .ok t') : t'.Canonical := by
  obtain ⟨i, _, rest⟩ := bind_eq_ok_iff.mp h
  obtain ⟨_, _, rest⟩ := bind_eq_ok_iff.mp rest
  obtain ⟨_, dropped⟩ := guard_eq_ok_iff.mp rest
  rw [← pure_eq_ok_iff.mp dropped]
  exact built.modify (g := fun d => { d with default := none }) fun _ => rfl

theorem Canonical.modifyColumns (built : t.Canonical) (h : t.modifyColumns new = .ok t') :
    t'.Canonical := by
  obtain ⟨pairs, made, _, rfl⟩ := modifyColumns_eq_ok_iff.mp h
  intro c member
  rcases mem_foldl_set member with old | ⟨i, written⟩
  · exact built c old
  · obtain ⟨d, _, position, result⟩ := exists_left_of_forall₂ made written
    obtain ⟨_, _, found⟩ := getElem?_of_position position
    exact ((modifiedColumn_eq_ok_iff (column_eq_ok_iff.mp found)).mp result).2.2

theorem settles_canonical (sound : t.Sound) (built : t.Canonical) (call : Call) :
    (call.perform t).Settles t Canonical := by
  cases call with
  | insertRow names literals =>
    exact (settles_insertRow sound fun _ => built.withRow sound).map _
  | insert names literals => exact (settles_insert sound fun _ => built.withRow sound).map _
  | select projection => exact Outcome.settles_read _ built
  | truncate => exact Outcome.settles_ok _ (canonical_truncate sound)
  | addColumns new defaults =>
    exact (Outcome.settles_commit fun _ => built.addColumns).map _
  | removeColumns names => exact (Outcome.settles_commit fun _ => built.removeColumns).map _
  | renameColumn old new => exact (Outcome.settles_commit fun _ => built.renameColumn).map _
  | modifyColumns definitions =>
    exact (Outcome.settles_commit fun _ => built.modifyColumns).map _
  | setDefault name literal => exact (Outcome.settles_commit fun _ => built.setDefault).map _
  | dropDefault name => exact (Outcome.settles_commit fun _ => built.dropDefault).map _

theorem lasting_canonical : Lasting fun t => t.WellFormed ∧ t.Canonical where
  created valid checked := ⟨wellFormed_ofDefinitions valid checked, canonical_ofDefinitions _ _⟩
  called h call := ⟨lasting_wellFormed.called h.1 call,
    (settles_canonical h.1.sound h.2 call).keeps h.2⟩
  renamed h valid := ⟨lasting_wellFormed.renamed h.1 valid, h.2⟩

end ColumnStore.Table
