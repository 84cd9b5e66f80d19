import ColumnStore.Proofs.Table.Change

/-!
# Well-formed tables

The invariant of a table whose schema was checked. Soundness is one part of it; the others speak
of the schema alone, so a change that leaves names and types leaves them.
-/

namespace ColumnStore.Table

variable {t t' : Table} {name : String} {i : Nat}

/-- Names are valid and no two columns share a name up to case, every type is valid, and every
column stores one value of its type for each row. -/
structure WellFormed (t : Table) : Prop where
  name : isValidName t.name = true
  inhabited : t.columns ≠ []
  columnNames : ∀ c ∈ t.columns, isValidName c.definition.name = true
  distinct : (t.columns.map Column.folded).Nodup
  types : ∀ c ∈ t.columns, c.definition.type.IsValid
  sound : t.Sound

/-- The first column of a name is the only one that has it. -/
theorem position?_eq_of_distinct (distinct : (t.columns.map Column.folded).Nodup) {j : Nat}
    (h : (t.columns.map Column.folded)[j]? = some (Text.fold name)) :
    t.position? name = some j := by
  rw [List.getElem?_map, Option.map_eq_some_iff] at h
  obtain ⟨c, entry, folded⟩ := h
  obtain ⟨inside, rfl⟩ := List.getElem?_eq_some_iff.mp entry
  refine List.findIdx?_eq_some_iff_getElem.mpr
    ⟨inside, Column.Definition.isNamed_iff.mpr folded, fun k before named => ?_⟩
  rw [List.nodup_iff_getElem?_ne_getElem?] at distinct
  refine distinct k j before (by simpa using inside) ?_
  have earlier := Column.Definition.isNamed_iff.mp named
  have within : k < t.columns.length := by omega
  simpa [Column.folded, within, inside] using earlier.trans folded.symm

/-- In a well-formed table a column is denoted by the names that agree with its own. -/
theorem WellFormed.position?_eq_some_iff {c : Column} (h : t.WellFormed)
    (entry : t.columns[i]? = some c) :
    t.position? name = some i ↔ c.definition.isNamed name = true := by
  constructor
  · intro found
    obtain ⟨inside, named, _⟩ := List.findIdx?_eq_some_iff_getElem.mp found
    obtain rfl : t.columns[i] = c :=
      Option.some.inj ((List.getElem?_eq_getElem inside).symm.trans entry)
    exact named
  · intro named
    refine position?_eq_of_distinct h.distinct ?_
    rw [List.getElem?_map, entry, Option.map_some, Column.folded,
      Column.Definition.isNamed_iff.mp named]

/-- In a list that names no column twice, the entry found for a column is the one that names it. -/
theorem WellFormed.find?_named_eq_some_iff {α : Type} {name : α → String} {entries : List α} {a : α}
    {c : Column} (h : t.WellFormed)
    (distinct : (entries.map fun a => t.position? (name a)).Nodup)
    (entry : t.columns[i]? = some c) :
    (entries.find? fun a => c.definition.isNamed (name a)) = some a ↔
      a ∈ entries ∧ t.position? (name a) = some i := by
  simp only [h.position?_eq_some_iff entry]
  constructor
  · intro found
    exact ⟨List.mem_of_find?_eq_some found, by simpa using List.find?_some found⟩
  · rintro ⟨member, named⟩
    cases found : entries.find? fun a => c.definition.isNamed (name a) with
    | none => exact absurd named (List.find?_eq_none.mp found a member)
    | some other =>
      have denoted : c.definition.isNamed (name other) = true := by
        simpa using List.find?_some found
      have same : t.position? (name other) = t.position? (name a) :=
        ((h.position?_eq_some_iff entry).mpr denoted).trans
          ((h.position?_eq_some_iff entry).mpr named).symm
      rw [List.inj_on_of_nodup_map distinct (List.mem_of_find?_eq_some found) member same]

theorem wellFormed_ofDefinitions {definitions : List Column.Definition}
    (valid : isValidName name = true)
    (checked : checkNewColumns [] definitions name = .ok ()) :
    (ofDefinitions name definitions).WellFormed := by
  obtain ⟨inhabited, each⟩ := checkNewColumns_eq_ok_iff.mp checked
  obtain ⟨each, distinct, _⟩ := checked_of_checkEach each
  have column {P : Column → Prop} (made : ∀ d ∈ definitions, P (Column.empty d)) :
      ∀ c ∈ (ofDefinitions name definitions).columns, P c := by
    intro c member
    obtain ⟨d, listed, rfl⟩ := List.mem_map.mp member
    exact made d listed
  exact {
    name := valid
    inhabited := by simpa [ofDefinitions] using inhabited
    columnNames := column fun d listed => (each d listed).1
    distinct := by
      rw [ofDefinitions, List.map_map]
      exact distinct
    types := column fun d listed => (each d listed).2.1
    sound := sound_ofDefinitions fun d listed => (each d listed).2.2 }

/-- A change that leaves the names and sets valid types leaves a well-formed table. -/
theorem WellFormed.of_names (h : t.WellFormed) (sound : t'.Sound) (name : t'.name = t.name)
    (names : t'.definitions.map (·.name) = t.definitions.map (·.name))
    (types : ∀ d ∈ t'.definitions, d.type.IsValid) : t'.WellFormed where
  name := name ▸ h.name
  inhabited := by
    intro none
    exact h.inhabited (by simpa [definitions, none] using names.symm)
  columnNames := by
    intro c member
    have listed : c.definition.name ∈ t.definitions.map (·.name) :=
      names ▸ List.mem_map_of_mem (List.mem_map_of_mem member)
    simp only [definitions, List.map_map, List.mem_map, Function.comp_apply] at listed
    obtain ⟨old, present, same⟩ := listed
    exact same ▸ h.columnNames old present
  distinct := by
    have folds := congrArg (List.map Text.fold) names
    simp only [List.map_map] at folds
    have distinct := h.distinct
    rw [folded_columns] at distinct ⊢
    exact (folds : _ = _) ▸ distinct
  types := fun c member => types c.definition (List.mem_map_of_mem member)
  sound := sound

/-- The names may also change one at a time, to one that no other column has. -/
theorem nodup_folded_modify {name : String} (distinct : (t.columns.map Column.folded).Nodup)
    (free : ∀ j, t.position? name = some j → j = i) :
    ((t.columns.modify i fun c => { c with definition := { c.definition with name } }).map
      Column.folded).Nodup := by
  rw [map_modify_eq_set (g := Column.folded) (b := Text.fold name) t.columns i fun _ => rfl]
  exact nodup_set distinct fun j entry => free j (position?_eq_of_distinct distinct entry)

theorem WellFormed.change (h : t.WellFormed) (change : Change t t') : t'.WellFormed := by
  have sound := change.sound h.sound
  have types : ∀ d ∈ t.definitions, d.type.IsValid := by
    intro d member
    obtain ⟨c, listed, rfl⟩ := List.mem_map.mp member
    exact h.types c listed
  cases change with
  | none => exact h
  | truncated =>
    have kept := definitions_truncate t
    exact h.of_names sound rfl (by rw [kept]) (kept ▸ types)
  | stored admitted =>
    have kept := definitions_withRow admitted
    exact h.of_names sound rfl (by rw [kept]) (kept ▸ types)
  | added new names valid distinct fresh =>
    refine ⟨h.name, by simp [h.inhabited], ?_, ?_, ?_, sound⟩
    · exact fun c member => (List.mem_append.mp member).elim (h.columnNames c) (names c)
    · rw [List.map_append]
      exact h.distinct.append distinct fresh
    · exact fun c member => (List.mem_append.mp member).elim (h.types c) (valid c)
  | removed chosen remaining =>
    refine ⟨h.name, remaining, ?_, ?_, ?_, sound⟩
    · exact fun c member => h.columnNames c (chosen.subset member)
    · exact h.distinct.sublist (chosen.map _)
    · exact fun c member => h.types c (chosen.subset member)
  | renamed i valid free =>
    refine ⟨h.name, by simpa using h.inhabited, ?_, nodup_folded_modify h.distinct free, ?_, sound⟩
    · intro c member
      rcases mem_modify member with old | ⟨old, _, rfl⟩
      · exact h.columnNames c old
      · exact valid
    · intro c member
      rcases mem_modify member with old | ⟨old, listed, rfl⟩
      · exact h.types c old
      · exact h.types old (List.mem_of_getElem? listed)
  | retyped names each =>
    refine h.of_names sound rfl (by simpa [definitions, Function.comp_def] using names) ?_
    intro d member
    obtain ⟨c, listed, rfl⟩ := List.mem_map.mp member
    rcases each c listed with old | ⟨_, valid⟩
    · exact h.types c old
    · exact valid
  | @redefaulted i default _ =>
    have names := map_definitions_withDefault (g := (·.name)) t i default fun _ _ => rfl
    have kinds := map_definitions_withDefault (g := (·.type)) t i default fun _ _ => rfl
    refine h.of_names sound rfl names fun d member => ?_
    have listed : d.type ∈ t.definitions.map (·.type) := kinds ▸ List.mem_map_of_mem member
    obtain ⟨old, present, same⟩ := List.mem_map.mp listed
    exact same ▸ types old present

/-- A well-formed table that bears the name of another. -/
def Succeeds (t t' : Table) : Prop := t'.WellFormed ∧ t'.name = t.name

/-- Every call on a well-formed table is refused without effect or leaves one of the same name. -/
theorem WellFormed.settles_perform (h : t.WellFormed) (call : Call) :
    (call.perform t).Settles t t.Succeeds :=
  (Table.settles_perform h.sound call).imp fun _ change => ⟨h.change change, change.name_eq⟩

end ColumnStore.Table
