import ColumnStore.Proofs.Catalog.Tables
import ColumnStore.Proofs.Column.Recast
import ColumnStore.Proofs.Table.Columns

/-!
# New types for several columns

All columns of a list of definitions are retyped before the first of them is written, so a list is
accepted exactly when every one of its columns can take the new type. The retyped columns are then
written to their different places; there a second time the same types change nothing.
-/

namespace ColumnStore.Table

variable {t t' : Table} {d : Column.Definition} {definitions : List Column.Definition}
  {c : Column} {i : Nat}

/-- The lists of definitions that are accepted. -/
structure Modifiable (t : Table) (definitions : List Column.Definition) : Prop where
  known : ∀ d ∈ definitions, (t.position? d.name).isSome = true
  distinct : (definitions.map fun d => t.position? d.name).Nodup
  types : ∀ d ∈ definitions, d.type.IsValid
  fits : ∀ d ∈ definitions, ∀ c, t.column? d.name = some c →
    ∀ value ∈ c.contents, (d.type.recast? value).isSome = true

/-! ## One definition -/

theorem modifiedColumn_eq (found : t.column? d.name = some c) :
    t.modifiedColumn d =
      d.type.check >>= fun _ => c.retyped ⟨c.definition.name, d.type, none⟩ := by
  rw [modifiedColumn, column_eq_ok_iff.mpr found]
  rfl

theorem refusal?_modifiedColumn (found : t.column? d.name = some c) :
    refusal? (t.modifiedColumn d) = t.retypeFault? d := by
  rw [modifiedColumn_eq found, retypeFault?, found, Option.bind_some, ← Column.refusal?_retyped]
  cases d.type.check <;> rfl

theorem modifiedColumn_eq_ok_iff {new : Column} (found : t.column? d.name = some c) :
    t.modifiedColumn d = .ok new ↔ d.type.IsValid ∧ c.Recast d.type new ∧ new.Canonical := by
  rw [modifiedColumn_eq found, check_bind_eq_ok_iff, ColumnType.check_eq_ok_iff,
    Column.retyped_eq_ok_iff]

theorem retypeFault?_eq_none_iff :
    t.retypeFault? d = none ↔ ∀ c, t.column? d.name = some c →
      d.type.IsValid ∧ ∀ value ∈ c.contents, (d.type.recast? value).isSome = true := by
  rw [retypeFault?, Option.bind_eq_none_iff]
  refine forall_congr' fun c => imp_congr_right fun _ => ?_
  simp only [Option.or_eq_none_iff, refusal?_check_eq_none_iff, ColumnType.check_eq_ok_iff,
    List.findSome?_eq_none_iff, Column.Definition.refusal?_cast_eq_none_iff]

/-- A single column is retyped where it stands. -/
theorem modifyColumns_single (t : Table) (d : Column.Definition) :
    t.modifyColumns [d] = t.position d.name >>= fun i =>
      (t.modifiedColumn d).map fun c => { t with columns := t.columns.set i c } := by
  simp only [modifyColumns, List.map_cons, List.map_nil, List.mapM_cons, List.mapM_nil]
  cases t.position d.name with
  | error e => rfl
  | ok i => cases t.modifiedColumn d <;> rfl

/-! ## The list of definitions -/

theorem refusal?_mapM_position (names : List String) :
    refusal? (names.mapM t.position) =
      (names.find? fun name => (t.position? name).isNone).map (.notFound .column) := by
  have each (name : String) : refusal? (t.position name) =
      if (t.position? name).isNone then some (.notFound .column name) else none := by
    rw [position]
    cases t.position? name <;> rfl
  rw [refusal?_mapM, ← findSome?_ite_some]
  simp only [each]

theorem find?_unknown_eq_none_iff :
    (definitions.map (·.name)).find? (fun name => (t.position? name).isNone) = none ↔
      ∀ d ∈ definitions, (t.position? d.name).isSome = true := by
  simp [List.find?_eq_none, ← Option.isSome_iff_ne_none]

theorem refusal?_modifyColumns (t : Table) (definitions : List Column.Definition) :
    refusal? (t.modifyColumns definitions) = t.modifyFault? definitions := by
  have unknown := t.refusal?_mapM_position (definitions.map (·.name))
  rw [modifyFault?, modifyColumns]
  cases located : (definitions.map (·.name)).mapM t.position with
  | error e =>
    rw [located, refusal?] at unknown
    obtain ⟨name, found, same⟩ := Option.map_eq_some_iff.mp unknown.symm
    simp only [found, same]
    rfl
  | ok targets =>
    rw [located, refusal?, eq_comm, Option.map_eq_none_iff] at unknown
    have positions := mapM_position_eq_ok_iff.mp located
    have distinct : ((definitions.map (·.name)).map t.position?).Nodup ↔ targets.Nodup := by
      rw [positions, List.nodup_map_iff (Option.some_injective Nat)]
    have each : ∀ d ∈ definitions, refusal? (t.modifiedColumn d) = t.retypeFault? d := by
      intro d member
      have known := find?_unknown_eq_none_iff.mp unknown d member
      obtain ⟨c, found⟩ := exists_column?_of_position? known
      exact refusal?_modifiedColumn found
    simp only [ok_bind_eq, unknown, distinct, ite_not]
    split
    · rw [← findSome?_congr_mem each, ← refusal?_mapM]
      cases definitions.mapM t.modifiedColumn <;> rfl
    · rfl

theorem modifyFault?_eq_none_iff :
    t.modifyFault? definitions = none ↔ t.Modifiable definitions := by
  have distinct : ((definitions.map (·.name)).map t.position?).Nodup ↔
      (definitions.map fun d => t.position? d.name).Nodup := by
    rw [List.map_map]
    rfl
  rw [modifyFault?]
  constructor
  · intro faultless
    cases unknown : (definitions.map (·.name)).find? fun name => (t.position? name).isNone with
    | some name => simp [unknown] at faultless
    | none =>
      simp only [unknown] at faultless
      split at faultless
      · next single =>
        have each d member := retypeFault?_eq_none_iff.mp
          (List.findSome?_eq_none_iff.mp faultless d member)
        have known := find?_unknown_eq_none_iff.mp unknown
        refine ⟨known, distinct.mp single, fun d member => ?_, fun d member c found =>
          (each d member c found).2⟩
        obtain ⟨c, found⟩ := exists_column?_of_position? (known d member)
        exact (each d member c found).1
      · cases faultless
  · intro accepted
    rw [find?_unknown_eq_none_iff.mpr accepted.known, if_pos (distinct.mpr accepted.distinct)]
    refine List.findSome?_eq_none_iff.mpr fun d member => retypeFault?_eq_none_iff.mpr ?_
    exact fun c found => ⟨accepted.types d member, accepted.fits d member c found⟩

/-! ## What is written -/

theorem retyped_of_modifyColumns (h : t.modifyColumns definitions = .ok t') :
    t.Retyped definitions t' := by
  obtain ⟨pairs, made, distinct, rfl⟩ := modifyColumns_eq_ok_iff.mp h
  refine ⟨rfl, rfl, length_foldl_set pairs t.columns, fun i unnamed => ?_, ?_⟩
  · refine getElem?_foldl_set_of_not_mem fun written => ?_
    obtain ⟨pair, listed, rfl⟩ := List.mem_map.mp written
    obtain ⟨d, member, position, _⟩ := exists_left_of_forall₂ made listed
    exact unnamed d member (position_eq_ok_iff.mp position)
  · intro d member i position
    obtain ⟨⟨j, new⟩, written, located, result⟩ := exists_right_of_forall₂ made member
    obtain rfl : i = j :=
      Option.some.inj (position.symm.trans (position_eq_ok_iff.mp located))
    obtain ⟨old, entry, found⟩ := getElem?_of_position located
    obtain ⟨inside, _⟩ := List.getElem?_eq_some_iff.mp entry
    have recast := (modifiedColumn_eq_ok_iff (column_eq_ok_iff.mp found)).mp result
    exact ⟨old, new, entry, getElem?_foldl_set_of_mem distinct written inside, recast.2.1⟩

theorem Retyped.columnNames_eq (h : t.Retyped definitions t') : t'.columnNames = t.columnNames := by
  refine List.ext_getElem? fun i => ?_
  rw [columnNames, columnNames, List.getElem?_map, List.getElem?_map]
  by_cases named : ∃ d ∈ definitions, t.position? d.name = some i
  · obtain ⟨d, member, position⟩ := named
    obtain ⟨old, new, before, after, recast⟩ := h.targets d member i position
    rw [before, after, Option.map_some, Option.map_some, recast.name]
  · rw [h.others i fun d member position => named ⟨d, member, position⟩]

/-- The same types a second time are accepted and change nothing. -/
theorem modifyColumns_again (sound : t.Sound) (h : t.modifyColumns definitions = .ok t') :
    t'.modifyColumns definitions = .ok t' := by
  have names := (retyped_of_modifyColumns h).columnNames_eq
  have sound' := (change_of_modifyColumns sound h).sound sound
  obtain ⟨pairs, made, distinct, same⟩ := modifyColumns_eq_ok_iff.mp h
  have written (i : Nat) (c : Column) (member : (i, c) ∈ pairs) : t'.columns[i]? = some c := by
    obtain ⟨d, _, position, _⟩ := exists_left_of_forall₂ made member
    obtain ⟨old, entry, _⟩ := getElem?_of_position position
    rw [same]
    exact getElem?_foldl_set_of_mem distinct member (List.getElem?_eq_some_iff.mp entry).1
  refine modifyColumns_eq_ok_iff.mpr ⟨pairs, ?_, distinct, ?_⟩
  · refine List.forall₂_iff_get.mpr ⟨made.length_eq, fun k left right => ?_⟩
    obtain ⟨position, result⟩ := made.get left right
    obtain ⟨old, _, found⟩ := getElem?_of_position position
    obtain ⟨valid, recast, built⟩ :=
      (modifiedColumn_eq_ok_iff (column_eq_ok_iff.mp found)).mp result
    have position' := (position_congr names _).trans position
    obtain ⟨new, entry, found'⟩ := getElem?_of_position position'
    have here := written _ _ (List.get_mem pairs ⟨k, right⟩)
    obtain rfl := Option.some.inj (entry.symm.trans here)
    refine ⟨position', (modifiedColumn_eq_ok_iff (column_eq_ok_iff.mp found')).mpr
      ⟨valid, recast.kind ▸ ?_, built⟩⟩
    exact (sound' _ (List.mem_of_getElem? entry)).recast_self
  · rw [foldl_set_eq_self written]

theorem modifyColumns_without_defaults (t : Table) (definitions : List Column.Definition) :
    t.modifyColumns (definitions.map fun d => { d with default := none }) =
      t.modifyColumns definitions := by
  simp only [modifyColumns, List.map_map, List.mapM_map]
  rfl

theorem perform_modifyColumns (t : Table) (definitions : List Column.Definition) :
    (Call.modifyColumns definitions).perform t =
      match t.modifyColumns definitions with
      | .ok t' => ⟨.ok none, t'⟩
      | .error e => ⟨.error e, t⟩ := by
  rw [Call.perform]
  cases t.modifyColumns definitions <;> rfl

/-- New types for columns of any table of a catalog are accepted exactly under the stated condition.
They then change the named columns and nothing else, and a second time they change nothing at all. A
refusal leaves the table and gives the first fault. Defaults inside the definitions are ignored. -/
theorem modifyColumns_exactly (calls : List Catalog.Call) {t : Table}
    (listed : t ∈ (Catalog.empty.after calls).allTables) (definitions : List Column.Definition) :
    let call := Call.modifyColumns definitions
    let o := call.perform t
    (o.answer = .ok none ↔ t.Modifiable definitions) ∧
    (o.answer = .ok none →
      t.Retyped definitions o.state ∧ call.perform o.state = ⟨.ok none, o.state⟩) ∧
    (∀ e, o.answer = .error e → o.state = t ∧ t.modifyFault? definitions = some e) ∧
    (Call.modifyColumns (definitions.map fun d => { d with default := none })).perform t = o := by
  intro call o
  have sound := (Catalog.wellFormed_of_allTables calls listed).sound
  have ignored :
      (Call.modifyColumns (definitions.map fun d => { d with default := none })).perform t = o := by
    rw [perform_modifyColumns, modifyColumns_without_defaults, ← perform_modifyColumns]
  have performed : o = _ := perform_modifyColumns t definitions
  have fault := refusal?_modifyColumns t definitions
  cases result : t.modifyColumns definitions with
  | ok t' =>
    rw [result] at performed fault
    have accepted := modifyFault?_eq_none_iff.mp fault.symm
    refine ⟨?_, fun _ => ⟨?_, ?_⟩, ?_, ignored⟩
    · simp [performed, accepted]
    · simpa [performed] using retyped_of_modifyColumns result
    · have again := perform_modifyColumns t' definitions
      rw [modifyColumns_again sound result] at again
      rw [performed]
      exact again
    · intro e refused
      rw [performed] at refused
      cases refused
  | error e =>
    rw [result] at performed fault
    have refused : ¬ t.Modifiable definitions := by
      intro accepted
      rw [modifyFault?_eq_none_iff.mpr accepted] at fault
      cases fault
    refine ⟨by simp [performed, refused], fun answered => ?_, fun e' answered => ?_, ignored⟩
    · rw [performed] at answered
      cases answered
    · rw [performed] at answered ⊢
      cases answered
      exact ⟨rfl, fault.symm⟩

/-- Digits become numbers together with the default, and a length is refused before any value. -/
theorem modifyColumns_exactly_digits :
    let definitions : List Column.Definition :=
      [⟨"id", .integer, none⟩, ⟨"code", .varchar 4, some (.text "0007")⟩]
    let calls : List Catalog.Call := [.createDatabase "shop", .useDatabase "shop",
      .createTable "items" definitions,
      .insert "items" ["id", "code"] [.number (-1), .string "042"],
      .insert "items" ["code"] [.null]]
    let t := (ofDefinitions "items" definitions).after
      [.insert ["id", "code"] [.number (-1), .string "042"], .insert ["code"] [.null]]
    let new : List Column.Definition := [⟨"CODE", .integer, some .null⟩, ⟨"id", .varchar 2, none⟩]
    let o := (Call.modifyColumns new).perform t
    let refused := (Call.modifyColumns [⟨"id", .varchar 0, none⟩]).perform t
    t ∈ (Catalog.empty.after calls).allTables ∧
      t.Modifiable new ∧
      o.state.byRows = ⟨"items", [⟨"id", .varchar 2, none⟩, ⟨"code", .integer, some (.integer 7)⟩],
        [[.text "-1", .integer 42], [.null, .null]]⟩ ∧
      (Call.modifyColumns new).perform o.state = ⟨.ok none, o.state⟩ ∧
      refused.answer = .error (.invalidLength 0) ∧ refused.state = t := by
  intro definitions calls t new o refused
  have listed : t ∈ (Catalog.empty.after calls).allTables := by decide +kernel
  have answered : o.answer = .ok none := by decide +kernel
  have fault : refused.answer = .error (.invalidLength 0) := by decide +kernel
  obtain ⟨accepted, done, _⟩ := modifyColumns_exactly calls listed new
  have kept := (modifyColumns_exactly calls listed [⟨"id", .varchar 0, none⟩]).2.2.1 _ fault
  exact ⟨listed, accepted.mp answered, by decide +kernel, (done answered).2, fault, kept.1⟩

end ColumnStore.Table
