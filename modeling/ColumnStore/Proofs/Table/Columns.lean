import ColumnStore.Proofs.Table.Rows

/-!
# Columns of a sound table

Changes of the schema do to the definitions and to every row what they do on a table by rows, with
the same answer. A table is only ever extended, thinned out, redefined at one position or rewritten
at one position, and each of these is first read by rows on its own.
-/

namespace ColumnStore.Table

variable {t t' : Table} {name : String} {values : List Value} {literals : List Literal} {i : Nat}

/-! ## Columns that come, go or change -/

theorem byRows_append {added : List Column} (sound : t.Sound)
    (new : ∀ c ∈ added, c.Sound t.rowCount)
    (filled : ∀ i < t.rowCount, added.map (·.cell i) = values) :
    ({ t with columns := t.columns ++ added } : Table).byRows =
      { t.byRows with
        definitions := t.definitions ++ added.map (·.definition)
        rows := t.rows.map (· ++ values) } := by
  have grown : ({ t with columns := t.columns ++ added } : Table).Sound := by
    intro c member
    rcases List.mem_append.mp member with old | fresh
    · exact sound c old
    · exact new c fresh
  refine (byRows_eq (f := fun i => t.columns.map (·.cell i) ++ values) grown List.map_append
    fun i inside => ?_).trans ?_
  · rw [List.map_append, filled i inside]
  · rw [byRows, rows_eq sound, List.map_map]
    rfl

theorem map_without {α β : Type} (f : α → β) (doomed : List Nat) (xs : List α) :
    (RowTable.without doomed xs).map f = RowTable.without doomed (xs.map f) := by
  rw [RowTable.without, RowTable.without, List.zipIdx_map, List.filter_map, List.map_map,
    List.map_map]
  rfl

theorem byRows_without (sound : t.Sound) (doomed : List Nat) :
    ({ t with columns := RowTable.without doomed t.columns } : Table).byRows =
      { t.byRows with
        definitions := RowTable.without doomed t.definitions
        rows := t.rows.map (RowTable.without doomed) } := by
  have kept : ({ t with columns := RowTable.without doomed t.columns } : Table).Sound :=
    fun c member => sound c ((kept_sublist doomed t.columns).subset member)
  refine (byRows_eq kept (map_without _ doomed t.columns) fun i _ =>
    map_without _ doomed t.columns).trans ?_
  rw [byRows, rows_eq sound, List.map_map]
  rfl

theorem byRows_redefine {g : Column.Definition → Column.Definition} (sound : t.Sound)
    (kept : ∀ c, t.columns[i]? = some c →
      ({ c with definition := g c.definition } : Column).Sound t.rowCount) :
    ({ t with columns := t.columns.modify i fun c => { c with definition := g c.definition } } :
      Table).byRows = { t.byRows with definitions := t.definitions.modify i g } := by
  refine (byRows_eq (sound.modify kept) (map_modify_comm t.columns i fun _ => rfl) fun row _ =>
    map_modify t.columns i fun c => ?_).trans ?_
  · rfl
  · rw [byRows, rows_eq sound]
    rfl

theorem byRows_set {c : Column} (sound : t.Sound) (new : c.Sound t.rowCount) :
    ({ t with columns := t.columns.set i c } : Table).byRows =
      { t.byRows with
        definitions := t.definitions.set i c.definition
        rows := List.zipWith (fun row cell => row.set i cell) t.rows c.values } := by
  have changed : ({ t with columns := t.columns.set i c } : Table).Sound := by
    intro other member
    rcases List.mem_or_eq_of_mem_set member with old | rfl
    · exact sound other old
    · exact new
  refine (byRows_eq changed List.map_set fun _ _ => List.map_set).trans ?_
  rw [byRows, rows_eq sound, new.values_eq, List.zipWith_map, List.zipWith_self]
  rfl

/-! ## New columns -/

theorem zeroValue_eq_zero (d : Column.Definition) : d.zeroValue = RowTable.zero d.type := by
  rw [Column.Definition.zeroValue]
  cases d.type <;> rfl

/-- The columns that an addition without defaults appends. -/
theorem mapM_filled_zero (count : Nat) (new : List Column.Definition) :
    (new.mapM fun d => Column.filled d count d.zeroValue) =
      .ok (new.map fun d => Column.copies d count d.zeroValue) := by
  induction new with
  | nil => rfl
  | cons d rest ih =>
    rw [List.mapM_cons, ih, Column.filled_eq d.admits_zeroValue]
    rfl

/-- The column that an addition appends for a definition and its default. -/
def preset (count : Nat) (d : Column.Definition) (value : Value) : Column :=
  Column.copies { d with default := some value } count value

theorem columnWithDefault_eq {count : Nat} {d : Column.Definition} {literal : Literal}
    (default : ∀ v, d.default = some v → d.type.Admits v) :
    columnWithDefault count d literal = (d.convert literal).map (preset count d) := by
  rw [columnWithDefault]
  cases conversion : d.convert literal with
  | error e => rfl
  | ok value =>
    have admitted := Column.Definition.admits_of_convert conversion default
    exact Column.filled_eq (d := { d with default := some value }) admitted

/-- The columns that an addition with defaults appends. -/
theorem mapM_columnWithDefault (count : Nat) {new : List Column.Definition}
    (full : literals.length = new.length)
    (default : ∀ d ∈ new, ∀ v, d.default = some v → d.type.Admits v) :
    ((new.zip literals).mapM fun (d, literal) => columnWithDefault count d literal) =
      ((new.zip literals).mapM fun (d, literal) => Column.Definition.convert d literal).map
        (List.zipWith (preset count) new) := by
  have each : ∀ pair ∈ new.zip literals, columnWithDefault count pair.1 pair.2 =
      (pair.1.convert pair.2).map (preset count pair.1) := by
    intro pair member
    exact columnWithDefault_eq (default pair.1 (List.of_mem_zip member).1)
  rw [mapM_congr_mem each, mapM_map_result]
  have first : (new.zip literals).map Prod.fst = new := List.map_fst_zip (by omega)
  congr 1
  funext values
  nth_rewrite 2 [← first]
  rw [List.zipWith_map_left]

theorem sound_of_mem_presets {count : Nat} {new : List Column.Definition}
    (admitted : List.Forall₂ (fun d v => d.type.Admits v) new values) :
    ∀ c ∈ List.zipWith (preset count) new values, c.Sound count := by
  induction admitted with
  | nil => simp
  | @cons d value _ _ first _ ih =>
    intro c member
    rcases List.mem_cons.mp member with rfl | later
    · exact Column.sound_copies (fun v same => Option.some.inj same ▸ first) first
    · exact ih c later

theorem cells_presets {count : Nat} {new : List Column.Definition}
    (admitted : List.Forall₂ (fun d v => d.type.Admits v) new values) (inside : i < count) :
    (List.zipWith (preset count) new values).map (·.cell i) = values := by
  induction admitted with
  | nil => rfl
  | @cons d value _ _ first _ ih =>
    have here : (preset count d value).cell i = value :=
      Column.cell_copies (fun v same => Option.some.inj same ▸ first) first inside
    rw [List.zipWith_cons_cons, List.map_cons, here, ih]

theorem byRows_addColumns (sound : t.Sound) (new : List Column.Definition)
    (defaults : Option (List Literal)) :
    (t.addColumns new defaults).map byRows = t.byRows.addColumns new defaults := by
  rw [addColumns, map_bind_eq]
  refine bind_congr_ok fun _ checked => ?_
  have each := checked_of_checkEach (checkNewColumns_eq_ok_iff.mp checked).2
  have default (d : Column.Definition) (member : d ∈ new) := (each.1 d member).2.2
  cases defaults with
  | none =>
    have added : ∀ c ∈ new.map fun d => Column.copies d t.rowCount d.zeroValue,
        c.Sound t.rowCount := by
      intro c member
      obtain ⟨d, listed, rfl⟩ := List.mem_map.mp member
      exact Column.sound_copies (default d listed) d.admits_zeroValue
    have filled : ∀ i < t.rowCount,
        (new.map fun d => Column.copies d t.rowCount d.zeroValue).map (·.cell i) =
          new.map fun d => RowTable.zero d.type := by
      intro i inside
      rw [List.map_map]
      refine List.map_congr_left fun d listed => ?_
      exact (Column.cell_copies (default d listed) d.admits_zeroValue inside).trans
        (zeroValue_eq_zero d)
    have read := byRows_append sound added filled
    simp only [List.map_map, Function.comp_def, Column.definition_copies, List.map_id'] at read
    simp only [mapM_filled_zero]
    exact congrArg Except.ok read
  | some literals =>
    simp only
    split
    · rfl
    · next full =>
      rw [mapM_columnWithDefault t.rowCount (not_not.mp full) default, map_bind_eq]
      cases conversion : (new.zip literals).mapM fun (d, literal) =>
          Column.Definition.convert d literal with
      | error e => rfl
      | ok values =>
        have admitted : List.Forall₂ (fun d v => d.type.Admits v) new values :=
          forall₂_of_mapM_zip conversion (not_not.mp full) fun d listed _ _ converted =>
            Column.Definition.admits_of_convert converted (default d listed)
        have read := byRows_append sound (sound_of_mem_presets admitted) fun i inside =>
          cells_presets admitted inside
        have definitions : ∀ d v,
            (preset t.rowCount d v).definition = { d with default := some v } :=
          fun d v => Column.definition_copies _ _ _
        simp only [List.map_zipWith, definitions] at read
        exact congrArg Except.ok read

/-! ## Columns removed and renamed -/

theorem byRows_removeColumns (sound : t.Sound) (names : List String) :
    (t.removeColumns names).map byRows = t.byRows.removeColumns names := by
  rw [removeColumns, RowTable.removeColumns, map_bind_eq, byRows_position]
  refine bind_congr_ok fun doomed _ => ?_
  have kept : RowTable.without doomed t.byRows.definitions =
      (RowTable.without doomed t.columns).map (·.definition) :=
    (map_without _ doomed t.columns).symm
  have none : (RowTable.without doomed t.byRows.definitions).isEmpty =
      (RowTable.without doomed t.columns).isEmpty := by
    rw [kept, List.isEmpty_map]
  simp only [none]
  rw [RowTable.without]
  split
  · rfl
  · exact congrArg Except.ok (byRows_without sound doomed)

theorem byRows_renameColumn (sound : t.Sound) (old new : String) :
    (t.renameColumn old new).map byRows = t.byRows.renameColumn old new := by
  rw [renameColumn, RowTable.renameColumn, map_bind_eq, byRows_position]
  refine bind_congr_ok fun i _ => ?_
  rw [map_bind_eq]
  refine bind_congr_ok fun _ _ => ?_
  simp only [byRows_position?]
  split
  · rfl
  · refine congrArg Except.ok
      (byRows_redefine (g := fun d => { d with name := new }) sound fun c listed => ?_)
    have kept := sound c (List.mem_of_getElem? listed)
    exact kept.redefined rfl kept.default

/-! ## New types -/

/-- One column of every row is the list of values of the column. -/
theorem mapM_rows_cast {c : Column} (sound : t.Sound) (entry : t.columns[i]? = some c)
    (target : Column.Definition) :
    (t.rows.mapM fun row => target.cast (row[i]?.getD .null)) = c.values.mapM target.cast := by
  have cells : (t.rows.map fun row => row[i]?.getD .null) = c.values := by
    have kept := sound c (List.mem_of_getElem? entry)
    rw [rows_eq sound, kept.values_eq, List.map_map]
    refine List.map_congr_left fun row _ => ?_
    simp [entry]
  rw [← cells, List.mapM_map]
  rfl

theorem byRows_retype {d : Column.Definition} (sound : t.Sound)
    (position : t.position d.name = .ok i) :
    t.byRows.retype d =
      (t.modifiedColumn d).map fun c => ({ t with columns := t.columns.set i c } : Table).byRows := by
  obtain ⟨c, entry, found⟩ := getElem?_of_position position
  have kept := sound c (List.mem_of_getElem? entry)
  rw [RowTable.retype, modifiedColumn, byRows_position, position, ok_bind_eq, map_bind_eq]
  refine bind_congr_ok fun _ _ => ?_
  rw [byRows_definition, found, map_ok_eq, ok_bind_eq, ok_bind_eq, Column.retyped_eq, map_bind_eq]
  refine bind_congr_ok fun default casting => ?_
  rw [map_bind_eq]
  refine (congrArg (· >>= _) (mapM_rows_cast sound entry _)).trans ?_
  refine bind_congr_ok fun values casts => ?_
  have retyped : c.retyped ⟨c.definition.name, d.type, none⟩ =
      .ok (Column.ofValues ⟨c.definition.name, d.type, default⟩ values) := by
    rw [Column.retyped_eq, casting, ok_bind_eq, casts]
    rfl
  have cells : (Column.ofValues ⟨c.definition.name, d.type, default⟩ values).values = values :=
    Column.values_ofValues (Column.Definition.admits_of_castDefault casting)
      (Column.admits_of_mapM_cast casts)
  have read := byRows_set (i := i) sound (kept.retyped retyped).2.2
  rw [cells, Column.definition_ofValues] at read
  exact congrArg Except.ok read.symm

theorem position?_congr (names : t'.columnNames = t.columnNames) (name : String) :
    t'.position? name = t.position? name := by
  have byNames (t : Table) :
      t.position? name = t.columnNames.findIdx? fun n => Text.fold n == Text.fold name := by
    rw [columnNames, List.findIdx?_map]
    rfl
  rw [byNames, byNames, names]

theorem position_congr (names : t'.columnNames = t.columnNames) (name : String) :
    t'.position name = t.position name := by
  rw [position, position, position?_congr names]

theorem modifiedColumn_congr {d : Column.Definition} (names : t'.columnNames = t.columnNames)
    (position : t.position d.name = .ok i) (same : t'.columns[i]? = t.columns[i]?) :
    t'.modifiedColumn d = t.modifiedColumn d := by
  obtain ⟨c, entry, found⟩ := getElem?_of_position position
  obtain ⟨c', entry', found'⟩ := getElem?_of_position ((position_congr names d.name).trans position)
  obtain rfl : c' = c := Option.some.inj (entry'.symm.trans (same.trans entry))
  rw [modifiedColumn, modifiedColumn, found, found']

/-- Columns that were all read from one table and are then written to their different places
come out as when each is read and written in turn: `t` is the table while the columns at `targets`
have still to be written. -/
theorem foldlM_retype {start : Table} {definitions : List Column.Definition} {targets : List Nat}
    (located : definitions.mapM (fun d => start.position d.name) = .ok targets)
    (distinct : targets.Nodup) (sound : t.Sound) (names : t.columnNames = start.columnNames)
    (unwritten : ∀ i ∈ targets, t.columns[i]? = start.columns[i]?) :
    definitions.foldlM RowTable.retype t.byRows =
      (definitions.mapM start.modifiedColumn).map fun modified =>
        ({ t with columns := (targets.zip modified).foldl (fun cs (i, c) => cs.set i c) t.columns } :
          Table).byRows := by
  induction definitions generalizing targets t with
  | nil =>
    cases located
    rfl
  | cons d rest ih =>
    obtain ⟨i, later, position, remaining, rfl⟩ := mapM_cons_eq_ok_iff.mp located
    obtain ⟨fresh, distinct⟩ := List.nodup_cons.mp distinct
    have here : t.position d.name = .ok i := (position_congr names d.name).trans position
    have same := modifiedColumn_congr names position (unwritten i (by simp))
    rw [List.foldlM_cons, List.mapM_cons, byRows_retype sound here, same]
    cases result : start.modifiedColumn d with
    | error e => rfl
    | ok c =>
      rw [map_ok_eq, ok_bind_eq, ok_bind_eq, map_bind_eq]
      obtain ⟨old, entry, name, _, kept⟩ := modifiedColumn_keeps sound here (same.trans result)
      let next : Table := { t with columns := t.columns.set i c }
      have soundNext : next.Sound := by
        intro other member
        rcases List.mem_or_eq_of_mem_set member with before | rfl
        · exact sound other before
        · exact kept
      have namesNext : next.columnNames = start.columnNames := by
        have stays : t.columnNames[i]? = some c.definition.name := by
          rw [columnNames, List.getElem?_map, entry, name]
          rfl
        exact (map_set_of_same stays).trans names
      have unwrittenNext : ∀ j ∈ later, next.columns[j]? = start.columns[j]? := by
        intro j member
        have apart : i ≠ j := by
          rintro rfl
          exact fresh member
        rw [List.getElem?_set_ne apart]
        exact unwritten j (List.mem_cons_of_mem i member)
      refine (ih remaining distinct soundNext namesNext unwrittenNext).trans ?_
      cases rest.mapM start.modifiedColumn <;> rfl

theorem byRows_modifyColumns (sound : t.Sound) (definitions : List Column.Definition) :
    (t.modifyColumns definitions).map byRows = t.byRows.modifyColumns definitions := by
  rw [modifyColumns, RowTable.modifyColumns, map_bind_eq, byRows_position]
  refine bind_congr_ok fun targets located => ?_
  simp only [byRows_columnNames]
  split
  · rfl
  · next distinct =>
    rw [List.mapM_map] at located
    rw [map_bind_eq]
    refine Eq.trans ?_ (foldlM_retype located (not_not.mp distinct) sound rfl fun _ _ => rfl).symm
    cases definitions.mapM t.modifiedColumn <;> rfl

/-! ## Defaults -/

theorem byRows_withDefault (sound : t.Sound) {default : Option Value}
    (admitted : ∀ v, default = some v → ∀ c, t.columns[i]? = some c → c.definition.type.Admits v) :
    (t.withDefault i default).byRows = t.byRows.withDefault i default := by
  refine byRows_redefine (g := fun d => { d with default }) sound fun c listed => ?_
  have kept := sound c (List.mem_of_getElem? listed)
  exact kept.redefined rfl fun v written => admitted v written c listed

theorem byRows_setDefault (sound : t.Sound) (name : String) (literal : Literal) :
    (t.setDefault name literal).map byRows = t.byRows.setDefault name literal := by
  rw [setDefault, RowTable.setDefault, map_bind_eq, byRows_position, byRows_definition]
  refine bind_congr_ok fun i position => ?_
  obtain ⟨c, entry, found⟩ := getElem?_of_position position
  rw [found, map_bind_eq, map_ok_eq, ok_bind_eq, ok_bind_eq]
  simp only
  split
  · rfl
  · rw [map_bind_eq]
    refine bind_congr_ok fun value conversion => ?_
    have admitted := Column.Definition.admits_of_convert conversion
      (sound c (List.mem_of_getElem? entry)).default
    refine congrArg Except.ok (byRows_withDefault sound fun v written other listed => ?_)
    obtain rfl : c = other := Option.some.inj (entry.symm.trans listed)
    exact Option.some.inj written ▸ admitted

theorem byRows_dropDefault (sound : t.Sound) (name : String) :
    (t.dropDefault name).map byRows = t.byRows.dropDefault name := by
  rw [dropDefault, RowTable.dropDefault, map_bind_eq, byRows_position, byRows_definition]
  refine bind_congr_ok fun i position => ?_
  obtain ⟨c, entry, found⟩ := getElem?_of_position position
  rw [found, map_bind_eq, map_ok_eq, ok_bind_eq, ok_bind_eq]
  simp only
  split
  · rfl
  · exact congrArg Except.ok (byRows_withDefault sound fun v absent => by cases absent)

end ColumnStore.Table
