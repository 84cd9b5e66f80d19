import ColumnStore.Proofs.Catalog.Tables
import ColumnStore.Proofs.Table.Insert

/-!
# The strict insertion and the flexible one

The strict insertion asks for the names of all columns in the order of the table. It compares each
name with the column in its place, while the flexible one looks every name up and assigns positions.
The two agree because no two columns share a name up to case.
-/

namespace ColumnStore.Table

variable {t : Table} {names : List String} {literals : List Literal}

/-! ## The strict insertion -/

/-- The strict insertion compares in place what is asked for. -/
theorem namesAll_iff (count : names.length = t.columns.length) :
    t.NamesAll names ↔
      ((t.columns.zip names).all fun (c, name) => c.definition.isNamed name) = true := by
  rw [namesAll_iff_forall₂, List.forall₂_iff_zip, List.all_eq_true]
  exact ⟨fun each pair member => each.2 member, fun each => ⟨count.symm, fun member => each _ member⟩⟩

theorem insertRow_of_namesAll (all : t.NamesAll names) :
    t.insertRow names literals =
      if literals.length = t.columns.length then t.store literals
      else ⟨.error (.columnCountMismatch t.name t.columns.length literals.length), t⟩ := by
  have inOrder := (namesAll_iff all.length).mp all
  by_cases full : literals.length = t.columns.length <;> simp [insertRow, all.length, inOrder, full]

/-- Any other names are refused for their number, or else as they stand. -/
theorem insertRow_of_not_namesAll (other : ¬ t.NamesAll names) :
    t.insertRow names literals =
      ⟨.error (if names.length = t.columns.length then
          .columnMismatch t.name t.columnNames names
        else .columnCountMismatch t.name t.columns.length names.length), t⟩ := by
  by_cases count : names.length = t.columns.length
  · have unordered := mt (namesAll_iff count).mpr other
    simp [insertRow, count, unordered]
  · simp [insertRow, count]

/-! ## The flexible insertion -/

/-- With as many names as columns, the two counts of literals that are reported are the same. -/
theorem WellFormed.insert_of_namesAll (h : t.WellFormed) (all : t.NamesAll names) :
    t.insert names literals =
      if literals.length = t.columns.length then t.store literals
      else ⟨.error (.columnCountMismatch t.name t.columns.length literals.length), t⟩ := by
  by_cases full : literals.length = t.columns.length
  · rw [if_pos full]
    exact insert_eq_store (h.position_of_namesAll all) full
  · have uneven : names.length ≠ literals.length := all.length ▸ Ne.symm full
    rw [if_neg full, insert, if_pos uneven, all.length]

/-- In a table of any catalog the two insertions have the same outcome, in answer and table, for the
names of all columns in order and any list of literals. Every other list of names is refused by the
strict insertion, which then leaves the table, so what it accepts the flexible one stores alike. -/
theorem insertRow_agrees_with_insert (calls : List Catalog.Call) {t : Table}
    (listed : t ∈ (Catalog.empty.after calls).allTables) (names : List String)
    (literals : List Literal) :
    (t.NamesAll names → t.insertRow names literals = t.insert names literals) ∧
      (¬ t.NamesAll names → ∃ fault, t.insertRow names literals = ⟨.error fault, t⟩) ∧
      ((t.insertRow names literals).answer = .ok () →
        t.insert names literals = t.insertRow names literals) := by
  have h : t.WellFormed := Catalog.wellFormed_of_allTables calls listed
  have alike (all : t.NamesAll names) : t.insertRow names literals = t.insert names literals :=
    (insertRow_of_namesAll all).trans (h.insert_of_namesAll all).symm
  refine ⟨alike, fun other => ⟨_, insertRow_of_not_namesAll other⟩, fun accepted => ?_⟩
  by_cases all : t.NamesAll names
  · exact (alike all).symm
  · rw [insertRow_of_not_namesAll all] at accepted
    cases accepted

/-- A row under names in another case, too few literals for it, and the same names out of order. -/
theorem insertRow_agrees_with_insert_other_case :
    let definitions : List Column.Definition := [⟨"id", .integer, none⟩, ⟨"Été", .varchar 5, none⟩]
    let calls : List Catalog.Call :=
      [.createDatabase "shop", .useDatabase "shop", .createTable "items" definitions]
    let t := ofDefinitions "items" definitions
    let names := ["ID", "ÉTÉ"]
    let o := t.insert names [.number 7, .string "juin"]
    let short := t.insert names [.number 7]
    let swapped := t.insertRow names.reverse [.string "juin", .number 7]
    t ∈ (Catalog.empty.after calls).allTables ∧
      t.insertRow names [.number 7, .string "juin"] = o ∧ o.answer = .ok () ∧
      o.state.rows = [[.integer 7, .text "juin"]] ∧
      t.insertRow names [.number 7] = short ∧
      short.answer = .error (.columnCountMismatch "items" 2 1) ∧
      ∃ fault, swapped = ⟨.error fault, t⟩ := by
  intro definitions calls t names o short swapped
  have listed : t ∈ (Catalog.empty.after calls).allTables := by decide +kernel
  have all : t.NamesAll names := by unfold NamesAll; decide +kernel
  have other : ¬ t.NamesAll names.reverse := by unfold NamesAll; decide +kernel
  have agrees := insertRow_agrees_with_insert calls listed
  exact ⟨listed, (agrees names _).1 all, by decide +kernel, by decide +kernel,
    (agrees names _).1 all, by decide +kernel, (agrees names.reverse _).2.1 other⟩

end ColumnStore.Table
