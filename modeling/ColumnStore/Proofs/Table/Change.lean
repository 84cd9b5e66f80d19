import ColumnStore.Proofs.Positions
import ColumnStore.Proofs.Table.Sound

/-!
# What a call can do to a table

`Change` lists the ways in which a call that succeeds may alter a sound table, with what the
checks of the call have established. Every call settles in such a change, and whatever is kept by
all changes is kept by every call; no later proof opens a call again for this.
-/

namespace ColumnStore

/-- The types that a checked schema may have. -/
def ColumnType.IsValid : ColumnType → Prop
  | integer => True
  | varchar length => 1 ≤ length.toNat ∧ length.toNat ≤ 255

theorem ColumnType.check_eq_ok_iff {type : ColumnType} : type.check = .ok () ↔ type.IsValid := by
  cases type with
  | integer => simp [check, IsValid]
  | varchar length =>
    simp [check, IsValid, isValidLength, maxVarcharLength, UInt32.le_iff_toNat_le]

theorem checkName_eq_ok_iff {kind : ObjectKind} {name : String} :
    checkName kind name = .ok () ↔ isValidName name = true := by
  rw [checkName]
  cases isValidName name <;> simp

/-- The name of a column as it is compared. -/
def Column.folded (c : Column) : List Char := Text.fold c.definition.name

theorem Column.Definition.isNamed_iff {d : Definition} {name : String} :
    d.isNamed name = true ↔ Text.fold d.name = Text.fold name := by
  simp [isNamed]

namespace Table

variable {t t' : Table} {new : List Column.Definition} {name : String} {i : Nat}

inductive Change (t : Table) : Table → Prop
  | none : Change t t
  | truncated : Change t t.truncate
  | stored {values : List Value} (admitted : t.Admits values) : Change t (t.withRow values)
  | added {columns : List Column} (sound : ∀ c ∈ columns, c.Sound t.rowCount)
      (names : ∀ c ∈ columns, isValidName c.definition.name = true)
      (types : ∀ c ∈ columns, c.definition.type.IsValid)
      (distinct : (columns.map Column.folded).Nodup)
      (fresh : (t.columns.map Column.folded).Disjoint (columns.map Column.folded)) :
      Change t { t with columns := t.columns ++ columns }
  | removed {kept : List Column} (chosen : kept.Sublist t.columns) (remaining : kept ≠ []) :
      Change t { t with columns := kept }
  | renamed (i : Nat) {name : String} (valid : isValidName name = true)
      (free : ∀ j, t.position? name = some j → j = i) :
      Change t { t with columns := t.columns.modify i fun c =>
        { c with definition := { c.definition with name } } }
  | retyped {columns : List Column}
      (names : columns.map (·.definition.name) = t.columns.map (·.definition.name))
      (each : ∀ c ∈ columns, c ∈ t.columns ∨ c.Sound t.rowCount ∧ c.definition.type.IsValid) :
      Change t { t with columns }
  | redefaulted (i : Nat) {default : Option Value}
      (admitted : ∀ v, default = some v →
        ∀ c, t.columns[i]? = some c → c.definition.type.Admits v) :
      Change t (t.withDefault i default)

theorem folded_columns (t : Table) :
    t.columns.map Column.folded = t.definitions.map fun d => Text.fold d.name := by
  rw [definitions, List.map_map]
  rfl

/-! ## New columns -/

theorem checkEach_cons_eq_ok_iff {taken rest : List Column.Definition} {d : Column.Definition} :
    checkEach taken (d :: rest) = .ok () ↔
      isValidName d.name = true ∧ d.type.IsValid ∧
        (∀ v, d.default = some v → d.type.Admits v) ∧
        (∀ other ∈ taken, Text.fold other.name ≠ Text.fold d.name) ∧
        checkEach (taken ++ [d]) rest = .ok () := by
  by_cases free : ∀ other ∈ taken, Text.fold other.name ≠ Text.fold d.name
  · have unclashed : taken.any (·.isNamed d.name) = false := by
      simpa [← Bool.not_eq_true, Column.Definition.isNamed_iff] using free
    cases default : d.default <;>
      simp +contextual [checkEach, default, unclashed, check_bind_eq_ok_iff, checkName_eq_ok_iff,
        ColumnType.check_eq_ok_iff, Column.Definition.check_eq_ok_iff, free]
  · have clashed : taken.any (·.isNamed d.name) = true := by
      simpa [Column.Definition.isNamed_iff] using free
    cases default : d.default <;>
      simp [checkEach, default, clashed, bind_eq_ok_iff, free]

theorem checkNewColumns_eq_ok_iff {existing : List Column.Definition} :
    checkNewColumns existing new name = .ok () ↔ new ≠ [] ∧ checkEach existing new = .ok () := by
  rw [checkNewColumns]
  cases new <;> simp

/-- A checked list of definitions is valid and no name clashes, before it or within it. -/
theorem checked_of_checkEach {taken : List Column.Definition}
    (h : checkEach taken new = .ok ()) :
    (∀ d ∈ new, isValidName d.name = true ∧ d.type.IsValid ∧
      ∀ v, d.default = some v → d.type.Admits v) ∧
    (new.map fun d => Text.fold d.name).Nodup ∧
    (taken.map fun d => Text.fold d.name).Disjoint (new.map fun d => Text.fold d.name) := by
  induction new generalizing taken with
  | nil => simp
  | cons d rest ih =>
    obtain ⟨valid, type, default, free, tail⟩ := checkEach_cons_eq_ok_iff.mp h
    obtain ⟨each, distinct, apart⟩ := ih tail
    rw [List.map_append, List.disjoint_append_left] at apart
    refine ⟨?_, ?_, ?_⟩
    · intro other member
      rcases List.mem_cons.mp member with rfl | later
      · exact ⟨valid, type, default⟩
      · exact each other later
    · exact List.nodup_cons.mpr ⟨by simpa using apart.2, distinct⟩
    · rw [List.map_cons, List.disjoint_cons_right]
      exact ⟨by simpa using free, apart.1⟩

/-- A new column has the name and the type of its definition and a value for every row. -/
def Realizes (count : Nat) (d : Column.Definition) (c : Column) : Prop :=
  c.definition.name = d.name ∧ c.definition.type = d.type ∧ c.Sound count

theorem realizes_filled {count : Nat} {d : Column.Definition} {value : Value} {c : Column}
    (default : ∀ v, d.default = some v → d.type.Admits v) (admitted : d.type.Admits value)
    (h : Column.filled d count value = .ok c) : Realizes count d c := by
  rw [Column.filled_eq admitted, Except.ok.injEq] at h
  subst h
  exact ⟨by simp, by simp, Column.sound_copies default admitted⟩

theorem realizes_columnWithDefault {count : Nat} {d : Column.Definition} {literal : Literal}
    {c : Column} (default : ∀ v, d.default = some v → d.type.Admits v)
    (h : columnWithDefault count d literal = .ok c) : Realizes count d c := by
  obtain ⟨value, conversion, filling⟩ := bind_eq_ok_iff.mp h
  have admitted := Column.Definition.admits_of_convert conversion default
  have realized := realizes_filled (d := { d with default := some value })
    (fun v same => Option.some.inj same ▸ admitted) admitted filling
  exact ⟨realized.1, realized.2.1, realized.2.2⟩

/-- The columns that an addition appends, for the definitions it was given. -/
theorem realized_of_addColumns {defaults : Option (List Literal)}
    (h : t.addColumns new defaults = .ok t') :
    checkEach t.definitions new = .ok () ∧ ∃ columns,
      List.Forall₂ (Realizes t.rowCount) new columns ∧
        t' = { t with columns := t.columns ++ columns } := by
  obtain ⟨checked, rest⟩ := check_bind_eq_ok_iff.mp h
  have each := (checkNewColumns_eq_ok_iff.mp checked).2
  have default (d : Column.Definition) (member : d ∈ new) :=
    ((checked_of_checkEach each).1 d member).2.2
  refine ⟨each, ?_⟩
  cases defaults with
  | none =>
    obtain ⟨columns, filling, added⟩ := bind_eq_ok_iff.mp rest
    refine ⟨columns, ?_, (pure_eq_ok_iff.mp added).symm⟩
    exact forall₂_of_mapM filling fun d member c filled =>
      realizes_filled (default d member) d.admits_zeroValue filled
  | some literals =>
    obtain ⟨full, rest⟩ := guard_eq_ok_iff.mp rest
    obtain ⟨columns, filling, added⟩ := bind_eq_ok_iff.mp rest
    refine ⟨columns, ?_, (pure_eq_ok_iff.mp added).symm⟩
    exact forall₂_of_mapM_zip filling (not_not.mp full) fun d member literal c filled =>
      realizes_columnWithDefault (default d member) filled

theorem change_of_addColumns {defaults : Option (List Literal)}
    (h : t.addColumns new defaults = .ok t') : Change t t' := by
  obtain ⟨each, columns, realized, rfl⟩ := realized_of_addColumns h
  obtain ⟨valid, distinct, apart⟩ := checked_of_checkEach each
  have folds : columns.map Column.folded = new.map fun d => Text.fold d.name := by
    clear each valid distinct apart h
    induction realized with
    | nil => rfl
    | cons first _ ih => simp [ih, Column.folded, first.1]
  have back (c : Column) (member : c ∈ columns) : ∃ d ∈ new, Realizes t.rowCount d c :=
    exists_left_of_forall₂ realized member
  refine .added ?_ ?_ ?_ (folds ▸ distinct) ?_
  · intro c member
    obtain ⟨d, _, realization⟩ := back c member
    exact realization.2.2
  · intro c member
    obtain ⟨d, listed, realization⟩ := back c member
    exact realization.1 ▸ (valid d listed).1
  · intro c member
    obtain ⟨d, listed, realization⟩ := back c member
    exact realization.2.1 ▸ (valid d listed).2.1
  · rwa [folds, folded_columns]

/-! ## Columns that stay, go or change -/

theorem change_of_removeColumns {names : List String} (h : t.removeColumns names = .ok t') :
    Change t t' := by
  obtain ⟨doomed, _, rest⟩ := bind_eq_ok_iff.mp h
  obtain ⟨remaining, removed⟩ := guard_eq_ok_iff.mp rest
  rw [← pure_eq_ok_iff.mp removed]
  exact .removed (kept_sublist doomed t.columns) (by simpa using remaining)

theorem change_of_renameColumn {old new : String} (h : t.renameColumn old new = .ok t') :
    Change t t' := by
  obtain ⟨i, _, rest⟩ := bind_eq_ok_iff.mp h
  obtain ⟨checked, rest⟩ := check_bind_eq_ok_iff.mp rest
  obtain ⟨free, renamed⟩ := guard_eq_ok_iff.mp rest
  rw [← pure_eq_ok_iff.mp renamed]
  refine .renamed i (checkName_eq_ok_iff.mp checked) fun j found => ?_
  simpa [found] using free

/-- A change of one column keeps soundness when it keeps that of the column. -/
theorem Sound.modify {f : Column → Column} (sound : t.Sound)
    (kept : ∀ c, t.columns[i]? = some c → (f c).Sound t.rowCount) :
    ({ t with columns := t.columns.modify i f } : Table).Sound := by
  intro c member
  rcases mem_modify member with old | ⟨old, listed, rfl⟩
  · exact sound c old
  · exact kept old listed

/-- A new default leaves every other attribute of the definitions. -/
theorem map_definitions_withDefault {β : Type} {g : Column.Definition → β} (t : Table) (i : Nat)
    (default : Option Value) (same : ∀ d default, g { d with default } = g d) :
    (t.withDefault i default).definitions.map g = t.definitions.map g := by
  rw [definitions, definitions, List.map_map, List.map_map]
  exact map_modify t.columns i fun c => same c.definition default

/-- A retyped column keeps the name and the rows of the column that its definition names. -/
theorem modifiedColumn_keeps {d : Column.Definition} {c : Column} (sound : t.Sound)
    (position : t.position d.name = .ok i) (h : t.modifiedColumn d = .ok c) :
    ∃ old, t.columns[i]? = some old ∧ c.definition.name = old.definition.name ∧
      c.definition.type.IsValid ∧ c.Sound t.rowCount := by
  obtain ⟨old, entry, found⟩ := getElem?_of_position position
  obtain ⟨type, rest⟩ := check_bind_eq_ok_iff.mp h
  obtain ⟨current, same, retyped⟩ := bind_eq_ok_iff.mp rest
  obtain rfl : old = current := Except.ok.inj (found.symm.trans same)
  obtain ⟨name, kind, kept⟩ := (sound old (List.mem_of_getElem? entry)).retyped retyped
  exact ⟨old, entry, name, kind ▸ ColumnType.check_eq_ok_iff.mp type, kept⟩

/-- What is done when columns are modified: a position and a retyped column for each definition, and
no position twice. -/
theorem modifyColumns_eq_ok_iff :
    t.modifyColumns new = .ok t' ↔ ∃ pairs : List (Nat × Column),
      List.Forall₂ (fun d pair => t.position d.name = .ok pair.1 ∧ t.modifiedColumn d = .ok pair.2)
        new pairs ∧
      (pairs.map Prod.fst).Nodup ∧
      t' = { t with columns := pairs.foldl (fun cs (i, c) => cs.set i c) t.columns } := by
  have paired := forall₂_pairs_iff (fun (d : Column.Definition) i => t.position d.name = .ok i)
    (fun d c => t.modifiedColumn d = .ok c) new
  simp only [modifyColumns, List.mapM_map, bind_eq_ok_iff, guard_eq_ok_iff, pure_eq_ok_iff, not_not,
    mapM_eq_ok_iff, paired]
  constructor
  · rintro ⟨targets, located, distinct, modified, casting, rfl⟩
    have same : targets.length = modified.length :=
      located.length_eq.symm.trans casting.length_eq
    have first : (targets.zip modified).map Prod.fst = targets := List.map_fst_zip (by omega)
    have second : (targets.zip modified).map Prod.snd = modified := List.map_snd_zip (by omega)
    refine ⟨targets.zip modified, ?_, by rwa [first], rfl⟩
    rw [first, second]
    exact ⟨located, casting⟩
  · rintro ⟨pairs, ⟨located, casting⟩, distinct, rfl⟩
    refine ⟨pairs.map Prod.fst, located, distinct, pairs.map Prod.snd, casting, ?_⟩
    rw [← List.zip_of_prod rfl rfl]

theorem change_of_modifyColumns (sound : t.Sound) (h : t.modifyColumns new = .ok t') :
    Change t t' := by
  obtain ⟨pairs, made, _, rfl⟩ := modifyColumns_eq_ok_iff.mp h
  have each (i : Nat) (c : Column) (member : (i, c) ∈ pairs) :
      ∃ old, t.columns[i]? = some old ∧ c.definition.name = old.definition.name ∧
        c.definition.type.IsValid ∧ c.Sound t.rowCount := by
    obtain ⟨d, _, position, result⟩ := exists_left_of_forall₂ made member
    exact modifiedColumn_keeps sound position result
  refine .retyped (map_foldl_set ?_) ?_
  · intro i c member
    obtain ⟨old, entry, name, _⟩ := each i c member
    rw [List.getElem?_map, entry, Option.map_some, name]
  · intro c member
    rcases mem_foldl_set member with old | ⟨i, written⟩
    · exact .inl old
    · obtain ⟨_, _, _, valid, kept⟩ := each i c written
      exact .inr ⟨kept, valid⟩

theorem change_of_setDefault {literal : Literal} (sound : t.Sound)
    (h : t.setDefault name literal = .ok t') : Change t t' := by
  obtain ⟨i, position, rest⟩ := bind_eq_ok_iff.mp h
  obtain ⟨c, found, rest⟩ := bind_eq_ok_iff.mp rest
  obtain ⟨_, rest⟩ := guard_eq_ok_iff.mp rest
  obtain ⟨value, conversion, stored⟩ := bind_eq_ok_iff.mp rest
  obtain ⟨old, entry, same⟩ := getElem?_of_position position
  obtain rfl : old = c := Except.ok.inj (same.symm.trans found)
  rw [← pure_eq_ok_iff.mp stored]
  refine .redefaulted i fun v written other listed => ?_
  obtain rfl : old = other := Option.some.inj (entry.symm.trans listed)
  have default := (sound old (List.mem_of_getElem? entry)).default
  exact Option.some.inj written ▸ Column.Definition.admits_of_convert conversion default

theorem change_of_dropDefault (h : t.dropDefault name = .ok t') : Change t t' := by
  obtain ⟨i, _, rest⟩ := bind_eq_ok_iff.mp h
  obtain ⟨c, _, rest⟩ := bind_eq_ok_iff.mp rest
  obtain ⟨_, dropped⟩ := guard_eq_ok_iff.mp rest
  rw [← pure_eq_ok_iff.mp dropped]
  exact .redefaulted i fun v absent => by cases absent

/-- Every call on a sound table is refused without effect or makes a listed change. -/
theorem settles_perform (sound : t.Sound) (call : Call) : (call.perform t).Settles t (Change t) := by
  cases call with
  | insertRow names literals => exact (settles_insertRow sound fun _ => .stored).map _
  | insert names literals => exact (settles_insert sound fun _ => .stored).map _
  | select projection => exact Outcome.settles_read _ .none
  | truncate => exact Outcome.settles_ok _ .truncated
  | addColumns new defaults =>
    exact (Outcome.settles_commit fun _ => change_of_addColumns).map _
  | removeColumns names => exact (Outcome.settles_commit fun _ => change_of_removeColumns).map _
  | renameColumn old new => exact (Outcome.settles_commit fun _ => change_of_renameColumn).map _
  | modifyColumns definitions =>
    exact (Outcome.settles_commit fun _ => change_of_modifyColumns sound).map _
  | setDefault name literal =>
    exact (Outcome.settles_commit fun _ => change_of_setDefault sound).map _
  | dropDefault name => exact (Outcome.settles_commit fun _ => change_of_dropDefault).map _

/-! ## What every change keeps -/

theorem Change.name_eq (h : Change t t') : t'.name = t.name := by
  cases h <;> rfl

theorem Change.sound (h : Change t t') (sound : t.Sound) : t'.Sound := by
  cases h with
  | none => exact sound
  | truncated =>
    intro c member
    obtain ⟨old, listed, rfl⟩ := List.mem_map.mp member
    exact (sound old listed).clear
  | stored admitted => exact sound.withRow admitted
  | added new => exact fun c member => (List.mem_append.mp member).elim (sound c) (new c)
  | removed chosen => exact fun c member => sound c (chosen.subset member)
  | renamed i =>
    refine sound.modify fun c listed => ?_
    have kept := sound c (List.mem_of_getElem? listed)
    exact kept.redefined rfl kept.default
  | retyped _ each =>
    intro c member
    rcases each c member with old | ⟨kept, _⟩
    · exact sound c old
    · exact kept
  | redefaulted i admitted =>
    refine sound.modify fun c listed => ?_
    have kept := sound c (List.mem_of_getElem? listed)
    exact kept.redefined rfl fun v written => admitted v written c listed

end Table

end ColumnStore
