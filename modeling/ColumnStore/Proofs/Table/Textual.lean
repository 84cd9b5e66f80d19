import ColumnStore.Catalog.Textual
import ColumnStore.Proofs.Table.Refinement

/-!
# Calls keep a table textual

No call makes a negative integer when its arguments have none: a literal is converted to itself, a
zero value is zero, and a text that is cast to an integer has no sign. As a sound table answers
and changes like the table of its rows, it is enough to look at the rows.
-/

namespace ColumnStore

open Token (IsIdentifier)

variable {value result : Value} {literal : Literal} {d target : Column.Definition}

/-! ## Values -/

namespace Column.Definition

theorem isUnsigned_of_convert (default : ∀ v, d.default = some v → v.IsUnsigned)
    (unsigned : literal.IsUnsigned) (h : d.convert literal = .ok value) : value.IsUnsigned := by
  unfold convert at h
  split at h
  · cases h
    trivial
  · cases stored : d.default with
    | none => simp [stored] at h
    | some v =>
      simp only [stored, Except.ok.injEq] at h
      exact h ▸ default v stored
  · cases h
    exact unsigned
  · simp at h
  · simp at h
  · obtain ⟨_, _, rfl⟩ := map_eq_ok_iff.mp h
    trivial

/-- A text is cast to an integer only when it is written without a sign. -/
theorem isUnsigned_of_cast (unsigned : value.IsUnsigned) (h : target.cast value = .ok result) :
    result.IsUnsigned := by
  have last {v : Value} (h : (do target.check v; return v) = Except.ok result) : v = result := by
    obtain ⟨_, _, same⟩ := bind_eq_ok_iff.mp h
    exact pure_eq_ok_iff.mp same
  unfold cast at h
  split at h
  · exact last h ▸ trivial
  · split at h
    · next n read =>
      have nonneg : (Value.integer n).IsUnsigned := Decimal.readPlainInt64?_nonneg read
      exact last h ▸ nonneg
    · cases h
  · exact last h ▸ unsigned

theorem isUnsigned_of_castDefault {old new : Option Value}
    (unsigned : ∀ v, old = some v → v.IsUnsigned) (h : target.castDefault old = .ok new) :
    ∀ v, new = some v → v.IsUnsigned := by
  rintro v rfl
  cases old with
  | none => cases h
  | some value =>
    obtain ⟨result, cast, same⟩ := map_eq_ok_iff.mp h
    exact Option.some.inj same ▸ isUnsigned_of_cast (unsigned value rfl) cast

end Column.Definition

/-! ## Tables by rows -/

namespace RowTable

variable {t t' : RowTable} {literals : List Literal} {names : List String}

theorem isUnsigned_of_converted {definitions : List Column.Definition} {values : List Value}
    (textual : ∀ d ∈ definitions, d.Textual) (unsigned : ∀ l ∈ literals, l.IsUnsigned)
    (h : ((definitions.zip literals).mapM fun (d, literal) => d.convert literal) = .ok values) :
    ∀ v ∈ values, v.IsUnsigned := by
  refine forall_of_mapM h ?_
  rintro ⟨d, l⟩ member v converted
  obtain ⟨listed, given⟩ := List.of_mem_zip member
  exact Column.Definition.isUnsigned_of_convert (textual d listed).default (unsigned l given)
    converted

/-! ### Rows -/

theorem Textual.store (h : t.Textual) (unsigned : ∀ l ∈ literals, l.IsUnsigned)
    (ok : t.store literals = .ok t') : t'.Textual := by
  obtain ⟨row, converted, same⟩ := bind_eq_ok_iff.mp ok
  rw [← pure_eq_ok_iff.mp same]
  refine { h with rows := List.forall_mem_append.mpr ⟨h.rows, ?_⟩ }
  exact List.forall_mem_singleton.mpr (isUnsigned_of_converted h.definitions unsigned converted)

theorem Textual.insertRow (h : t.Textual) (unsigned : ∀ l ∈ literals, l.IsUnsigned)
    (ok : t.insertRow names literals = .ok t') : t'.Textual := by
  simp only [RowTable.insertRow] at ok
  split at ok
  · cases ok
  · split at ok
    · cases ok
    · split at ok
      · cases ok
      · exact h.store unsigned ok

/-- The literals that are assigned are among those given. -/
theorem mem_assign {assigned chosen : List (Nat × Literal)} {pairs : List (String × Literal)}
    (ok : t.assign names assigned pairs = .ok chosen) :
    ∀ entry ∈ chosen, entry ∈ assigned ∨ ∃ name, (name, entry.2) ∈ pairs := by
  induction pairs generalizing assigned with
  | nil =>
    cases ok
    exact fun entry member => .inl member
  | cons pair rest ih =>
    obtain ⟨position, _, later⟩ := bind_eq_ok_iff.mp ok
    obtain ⟨_, later⟩ := guard_eq_ok_iff.mp later
    intro entry member
    rcases ih later entry member with before | ⟨name, given⟩
    · rcases List.mem_cons.mp before with rfl | old
      · exact .inr ⟨pair.1, List.mem_cons_self⟩
      · exact .inl old
    · exact .inr ⟨name, List.mem_cons_of_mem _ given⟩

theorem Textual.insert (h : t.Textual) (unsigned : ∀ l ∈ literals, l.IsUnsigned)
    (ok : t.insert names literals = .ok t') : t'.Textual := by
  simp only [RowTable.insert] at ok
  obtain ⟨_, ok⟩ := guard_eq_ok_iff.mp ok
  obtain ⟨chosen, assigned, stored⟩ := bind_eq_ok_iff.mp ok
  refine h.store (List.forall_mem_map.mpr ?_) stored
  rintro ⟨d, i⟩ _
  cases found : chosen.lookup i with
  | none =>
    simp only [Option.getD_none]
    split <;> trivial
  | some l =>
    obtain ⟨before, later, split, _⟩ := List.lookup_eq_some_iff.mp found
    rcases mem_assign assigned (i, l) (by simp [split]) with none | ⟨name, given⟩
    · cases none
    · simp only [Option.getD_some]
      exact unsigned l (List.of_mem_zip given).2

/-! ### Columns -/

theorem isUnsigned_zero (type : ColumnType) : (zero type).IsUnsigned := by
  cases type with
  | integer => exact Int64.le_refl 0
  | varchar limit => trivial

theorem Textual.addColumns {new : List Column.Definition} {defaults : Option (List Literal)}
    (h : t.Textual) (textual : ∀ d ∈ new, d.Textual)
    (unsigned : ∀ literals, defaults = some literals → ∀ l ∈ literals, l.IsUnsigned)
    (ok : t.addColumns new defaults = .ok t') : t'.Textual := by
  obtain ⟨_, _, rest⟩ := bind_eq_ok_iff.mp ok
  have rows {cells : List Value} (given : ∀ v ∈ cells, v.IsUnsigned) :
      ∀ row ∈ t.rows.map (· ++ cells), ∀ v ∈ row, v.IsUnsigned :=
    List.forall_mem_map.mpr fun row member =>
      List.forall_mem_append.mpr ⟨h.rows row member, given⟩
  cases defaults with
  | none =>
    rw [← pure_eq_ok_iff.mp rest]
    refine ⟨h.name, List.forall_mem_append.mpr ⟨h.definitions, textual⟩, rows ?_⟩
    exact List.forall_mem_map.mpr fun d _ => isUnsigned_zero d.type
  | some literals =>
    obtain ⟨_, rest⟩ := guard_eq_ok_iff.mp rest
    obtain ⟨values, converted, same⟩ := bind_eq_ok_iff.mp rest
    have given := isUnsigned_of_converted textual (unsigned literals rfl) converted
    rw [← pure_eq_ok_iff.mp same]
    refine ⟨h.name, List.forall_mem_append.mpr ⟨h.definitions, ?_⟩, rows given⟩
    rw [← List.map_uncurry_zip_eq_zipWith]
    refine List.forall_mem_map.mpr ?_
    rintro ⟨d, value⟩ member
    obtain ⟨listed, stored⟩ := List.of_mem_zip member
    exact ⟨(textual d listed).name, fun v default => Option.some.inj default ▸ given _ stored⟩

theorem mem_without {α : Type} {doomed : List Nat} {xs : List α} {a : α}
    (member : a ∈ without doomed xs) : a ∈ xs :=
  (kept_sublist doomed xs).subset member

theorem Textual.removeColumns (h : t.Textual) (ok : t.removeColumns names = .ok t') :
    t'.Textual := by
  obtain ⟨doomed, _, rest⟩ := bind_eq_ok_iff.mp ok
  obtain ⟨_, rest⟩ := guard_eq_ok_iff.mp rest
  rw [← pure_eq_ok_iff.mp rest]
  refine ⟨h.name, fun d member => h.definitions d (mem_without member), ?_⟩
  exact List.forall_mem_map.mpr fun row member v kept => h.rows row member v (mem_without kept)

theorem Textual.renameColumn {old new : String} (h : t.Textual) (name : IsIdentifier new)
    (ok : t.renameColumn old new = .ok t') : t'.Textual := by
  obtain ⟨i, _, rest⟩ := bind_eq_ok_iff.mp ok
  obtain ⟨_, rest⟩ := check_bind_eq_ok_iff.mp rest
  obtain ⟨_, rest⟩ := guard_eq_ok_iff.mp rest
  rw [← pure_eq_ok_iff.mp rest]
  refine { h with definitions := fun d member => ?_ }
  rcases mem_modify member with kept | ⟨d, listed, rfl⟩
  · exact h.definitions d kept
  · exact { h.definitions d (List.mem_of_getElem? listed) with name }

theorem mem_of_definition {name : String} (found : t.definition name = .ok d) :
    d ∈ t.definitions := by
  rw [definition] at found
  split at found
  · next stored =>
    cases found
    exact List.mem_of_find?_eq_some stored
  · cases found

theorem Textual.retype (h : t.Textual) (ok : t.retype d = .ok t') : t'.Textual := by
  obtain ⟨i, _, rest⟩ := bind_eq_ok_iff.mp ok
  obtain ⟨_, rest⟩ := check_bind_eq_ok_iff.mp rest
  obtain ⟨current, found, rest⟩ := bind_eq_ok_iff.mp rest
  obtain ⟨default, castDefault, rest⟩ := bind_eq_ok_iff.mp rest
  obtain ⟨cells, cast, same⟩ := bind_eq_ok_iff.mp rest
  have old := h.definitions current (mem_of_definition found)
  have unsigned : ∀ v ∈ cells, v.IsUnsigned := by
    refine forall_of_mapM cast fun row member v result => ?_
    refine Column.Definition.isUnsigned_of_cast ?_ result
    cases entry : row[i]? with
    | none => trivial
    | some v => exact h.rows row member v (List.mem_of_getElem? entry)
  rw [← pure_eq_ok_iff.mp same]
  refine ⟨h.name, fun other member => ?_, ?_⟩
  · rcases List.mem_or_eq_of_mem_set member with kept | rfl
    · exact h.definitions other kept
    · exact ⟨old.name, Column.Definition.isUnsigned_of_castDefault old.default castDefault⟩
  · rw [← List.map_uncurry_zip_eq_zipWith]
    refine List.forall_mem_map.mpr ?_
    rintro ⟨row, cell⟩ member v written
    obtain ⟨listed, new⟩ := List.of_mem_zip member
    rcases List.mem_or_eq_of_mem_set written with kept | rfl
    · exact h.rows row listed v kept
    · exact unsigned _ new

theorem Textual.foldlM_retype {definitions : List Column.Definition} (h : t.Textual)
    (ok : definitions.foldlM RowTable.retype t = .ok t') : t'.Textual := by
  induction definitions generalizing t with
  | nil =>
    cases ok
    exact h
  | cons d later ih =>
    obtain ⟨next, retyped, rest⟩ := bind_eq_ok_iff.mp ok
    exact ih (h.retype retyped) rest

theorem Textual.modifyColumns {definitions : List Column.Definition} (h : t.Textual)
    (ok : t.modifyColumns definitions = .ok t') : t'.Textual := by
  obtain ⟨targets, _, rest⟩ := bind_eq_ok_iff.mp ok
  obtain ⟨_, rest⟩ := guard_eq_ok_iff.mp rest
  exact h.foldlM_retype rest

theorem Textual.withDefault {default : Option Value} (h : t.Textual) (i : Nat)
    (unsigned : ∀ v, default = some v → v.IsUnsigned) : (t.withDefault i default).Textual := by
  refine { h with definitions := fun d member => ?_ }
  rcases mem_modify member with kept | ⟨d, listed, rfl⟩
  · exact h.definitions d kept
  · exact { h.definitions d (List.mem_of_getElem? listed) with default := unsigned }

theorem Textual.setDefault {name : String} (h : t.Textual) (unsigned : literal.IsUnsigned)
    (ok : t.setDefault name literal = .ok t') : t'.Textual := by
  obtain ⟨i, _, rest⟩ := bind_eq_ok_iff.mp ok
  obtain ⟨d, found, rest⟩ := bind_eq_ok_iff.mp rest
  obtain ⟨_, rest⟩ := guard_eq_ok_iff.mp rest
  obtain ⟨value, converted, same⟩ := bind_eq_ok_iff.mp rest
  have old := h.definitions d (mem_of_definition found)
  have new := Column.Definition.isUnsigned_of_convert old.default unsigned converted
  rw [← pure_eq_ok_iff.mp same]
  exact h.withDefault i fun v default => Option.some.inj default ▸ new

theorem Textual.dropDefault {name : String} (h : t.Textual) (ok : t.dropDefault name = .ok t') :
    t'.Textual := by
  obtain ⟨i, _, rest⟩ := bind_eq_ok_iff.mp ok
  obtain ⟨d, _, rest⟩ := bind_eq_ok_iff.mp rest
  obtain ⟨_, rest⟩ := guard_eq_ok_iff.mp rest
  rw [← pure_eq_ok_iff.mp rest]
  exact h.withDefault i (by simp)

/-! ### Calls -/

theorem Textual.perform (h : t.Textual) {call : Table.Call} (arguments : call.Textual) :
    (t.perform call).state.Textual := by
  have committed {new : Except Fault RowTable} (each : ∀ s, new = .ok s → s.Textual) :
      (perform.done t new).state.Textual :=
    (Outcome.settles_commit each).keeps h
  cases call with
  | insertRow names literals => exact committed fun _ ok => h.insertRow arguments ok
  | insert names literals => exact committed fun _ ok => h.insert arguments ok
  | select projection => exact h
  | truncate => exact { h with rows := fun row member => absurd member List.not_mem_nil }
  | addColumns new defaults =>
    exact committed fun _ ok => h.addColumns arguments.1 arguments.2 ok
  | removeColumns names => exact committed fun _ ok => h.removeColumns ok
  | renameColumn old new => exact committed fun _ ok => h.renameColumn arguments ok
  | modifyColumns definitions => exact committed fun _ ok => h.modifyColumns ok
  | setDefault name literal => exact committed fun _ ok => h.setDefault arguments ok
  | dropDefault name => exact committed fun _ ok => h.dropDefault ok

end RowTable

theorem Table.textual_perform {t : Table} (sound : t.Sound) (h : t.byRows.Textual)
    {call : Call} (arguments : call.Textual) : (call.perform t).state.byRows.Textual := by
  have same : (call.perform t).state.byRows = (t.byRows.perform call).state :=
    congrArg Outcome.state (byRows_perform sound call)
  rw [same]
  exact h.perform arguments

end ColumnStore
