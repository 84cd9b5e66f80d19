import Mathlib.Data.List.Sort
import ColumnStore.Proofs.Catalog.Locality
import ColumnStore.Proofs.Catalog.Tables
import ColumnStore.Proofs.Table.Renaming

/-!
# Renamings are taken back

Columns are found up to case and may be renamed in case alone, tables are found by their exact name
in a list, and databases by a key that repeats the name. On each level the former name is valid in
every catalog that calls lead to, and nothing else bears it once it was given away.
-/

namespace ColumnStore

namespace Registry

variable {α : Type}

theorem ext_find? {r r' : Registry α} (same : ∀ name, r.find? name = r'.find? name) : r = r' := by
  have listed (r : Registry α) (entry : String × α) :
      entry ∈ r.entries ↔ r.find? entry.1 = some entry.2 := ⟨find?_of_mem, mem_of_find?⟩
  have irrefl : Std.Irrefl fun a b : String × α => a.1 < b.1 := ⟨fun a => String.lt_irrefl a.1⟩
  have antisymm : Std.Antisymm fun a b : String × α => a.1 < b.1 :=
    ⟨fun a b below above => absurd (String.lt_trans below above) (String.lt_irrefl a.1)⟩
  have entries : r.entries = r'.entries :=
    r.ascending.eq_of_mem_iff r'.ascending fun entry => by rw [listed, listed, same]
  cases r
  cases r'
  simpa using entries

/-- An entry that is moved to a free name and back. -/
theorem erase_insert_restored {r : Registry α} {old new : String} {a b : α}
    (stored : r.find? old = some a) (free : r.find? new = none) :
    (((r.erase old).insert new b).erase new).insert old a = r := by
  refine ext_find? fun name => ?_
  simp only [find?_insert, find?_erase]
  by_cases former : name = old
  · rw [if_pos former, former, stored]
  · rw [if_neg former]
    by_cases given : name = new
    · rw [if_pos given, given, free]
    · rw [if_neg given, if_neg given, if_neg former]

end Registry

/-- The former name is free again, since no other table has it. -/
theorem Database.WellFormed.renameTable_restored {d d' : Database} {old new : String}
    (h : d.WellFormed) (renamed : d.renameTable old new = .ok d') :
    d'.renameTable new old = .ok d := by
  have next := (succeeds_renameTable h renamed).1
  obtain ⟨i, here, _, free, rfl⟩ := renameTable_eq_ok_iff.mp renamed
  obtain ⟨t, entry, -, rfl⟩ := getElem?_of_position? here
  have moved : (d.withTableName i new).tables[i]? = some { t with name := new } := by
    simp [withTableName, entry]
  have listed : d.tableNames[i]? = some t.name := by
    rw [tableNames, List.getElem?_map, entry, Option.map_some]
  have other : t.name ≠ new := fun same => free (same ▸ List.mem_of_getElem? listed)
  have restored : (d.withTableName i new).withTableName i t.name = d := by
    rw [withTableName, withTableName, modify_modify_of_entry entry rfl]
  refine renameTable_eq_ok_iff.mpr ⟨i, position?_of_getElem? next.distinct moved,
    (h.tables t (List.mem_of_getElem? entry)).name, ?_, restored⟩
  rw [tableNames_withTableName]
  exact not_mem_set h.distinct listed other

namespace Catalog

variable {c c' : Catalog} {old new table : String}

/-! ## Databases -/

theorem WellFormed.renameDatabase_restored (h : c.WellFormed)
    (renamed : c.renameDatabase old new = ⟨.ok (), c'⟩) :
    c'.renameDatabase new old = ⟨.ok (), c⟩ := by
  obtain ⟨idle, _, free, d, stored, rfl⟩ := renameDatabase_eq_ok_iff.mp renamed
  obtain ⟨named, wellFormed⟩ := h.databases (old, d) (Registry.mem_of_find? stored)
  obtain rfl : d.name = old := named
  have other : d.name ≠ new := by
    rintro same
    rw [same, free] at stored
    cases stored
  refine renameDatabase_eq_ok_iff.mpr
    ⟨idle, wellFormed.name, ?_, { d with name := new }, ?_, ?_⟩
  · simp [Registry.find?_insert, Registry.find?_erase, other]
  · simp [Registry.find?_insert]
  · rw [Registry.erase_insert_restored stored free]

/-! ## Tables -/

theorem WellFormed.renameTable_restored (h : c.WellFormed)
    (renamed : c.renameTable old new = ⟨.ok (), c'⟩) :
    c'.renameTable new old = ⟨.ok (), c⟩ := by
  have next : c'.WellFormed := (settles_renameTable h).of_eq_ok renamed
  obtain ⟨d, d', chosen, made, rfl⟩ := (onDatabase_commit_eq_ok_iff h).mp renamed
  obtain ⟨current, wellFormed⟩ := h.current_eq chosen
  have kept : d'.name = d.name := (Database.succeeds_renameTable wellFormed made).2
  refine (onDatabase_commit_eq_ok_iff next).mpr
    ⟨d', d, database_insert current d', wellFormed.renameTable_restored made, ?_⟩
  rw [kept, Registry.insert_insert, Registry.insert_of_find? (h.find?_of_database chosen)]

/-! ## Columns -/

/-- The tables before and after a column was renamed, and how it is taken back. -/
theorem WellFormed.renameColumn_restored (h : c.WellFormed)
    (renamed : c.renameColumn table old new = ⟨.ok (), c'⟩) :
    ∃ t t' column, c.table table = .ok t ∧ c'.table table = .ok t' ∧ t.column? old = some column ∧
      t.AnswersAlike t' old new column.definition.name ∧
      c'.renameColumn table new column.definition.name = ⟨.ok (), c⟩ := by
  have next : c'.WellFormed :=
    (settles_tableCall h (.renameColumn old new) fun _ => rfl).of_eq_ok renamed
  have named (t t' : Table) {old new : String} (made : t.renameColumn old new = .ok t') :
      t'.name = t.name := (Table.change_of_renameColumn made).name_eq
  obtain ⟨t, t', found, made, rfl⟩ :=
    (onTable_commit_eq_ok_iff h fun t t' => named t t').mp renamed
  obtain ⟨wellFormed, rfl⟩ := h.table found
  obtain ⟨column, called, alike, restored⟩ := wellFormed.renamed made
  have same := named t t' made
  have held : (c.withTable t').table t.name = .ok t' := by
    rw [← same] at found ⊢
    exact table_withTable_self h found
  refine ⟨t, t', column, found, held, called, alike, ?_⟩
  refine (onTable_commit_eq_ok_iff next fun t t' => named t t').mpr ⟨t', t, held, restored, ?_⟩
  rw [withTable_withTable h same.symm, withTable_of_table h found]

/-- In any catalog, a column that was renamed is found with its values under the new name, and each
renaming of a column, a table or a database that is accepted is taken back by the renaming from the
new name to the former one, which restores the table or the catalog exactly. -/
theorem renamings_restored (calls : List Call) :
    let c := empty.after calls
    (∀ t ∈ c.allTables, ∀ old new t', t.renameColumn old new = .ok t' →
      ∃ column, t.column? old = some column ∧ t.AnswersAlike t' old new column.definition.name ∧
        t'.renameColumn new column.definition.name = .ok t) ∧
      (∀ table old new c', c.renameColumn table old new = ⟨.ok (), c'⟩ →
        ∃ t t' column, c.table table = .ok t ∧ c'.table table = .ok t' ∧
          t.column? old = some column ∧ t.AnswersAlike t' old new column.definition.name ∧
          c'.renameColumn table new column.definition.name = ⟨.ok (), c⟩) ∧
      (∀ old new c', c.renameTable old new = ⟨.ok (), c'⟩ →
        c'.renameTable new old = ⟨.ok (), c⟩) ∧
      ∀ old new c', c.renameDatabase old new = ⟨.ok (), c'⟩ →
        c'.renameDatabase new old = ⟨.ok (), c⟩ := by
  intro c
  have h : c.WellFormed := wellFormed_empty.after calls
  refine ⟨fun t listed old new t' renamed => ?_, fun _ _ _ _ => h.renameColumn_restored,
    fun _ _ _ => h.renameTable_restored, fun _ _ _ => h.renameDatabase_restored⟩
  exact (wellFormed_of_allTables calls listed).renamed renamed

/-- A column that is renamed in case alone, a table between two others and a database. -/
theorem renamings_restored_case_only :
    let calls : List Call := [.createDatabase "shop", .useDatabase "shop",
      .createTable "before" [⟨"id", .integer, none⟩],
      .createTable "items" [⟨"id", .integer, none⟩, ⟨"Été", .varchar 5, none⟩],
      .createTable "later" [⟨"id", .integer, none⟩],
      .insertRow "items" ["id", "été"] [.number 7, .string "juin"]]
    let c := empty.after calls
    let idle := empty.after (calls ++ [.leaveDatabase])
    let t : Table := ⟨"items", [⟨⟨"id", .integer, none⟩, .integers #[7], #[false]⟩,
      ⟨⟨"Été", .varchar 5, none⟩, .texts #["juin"], #[false]⟩], 1⟩
    let t' : Table := ⟨"items", [⟨⟨"id", .integer, none⟩, .integers #[7], #[false]⟩,
      ⟨⟨"ÉTÉ", .varchar 5, none⟩, .texts #["juin"], #[false]⟩], 1⟩
    let column := c.renameColumn "items" "été" "ÉTÉ"
    let table := c.renameTable "items" "after"
    let database := idle.renameDatabase "shop" "zoo"
    (t ∈ c.allTables ∧ t.renameColumn "été" "ÉTÉ" = .ok t' ∧ t'.renameColumn "ÉTÉ" "Été" = .ok t ∧
        t'.select (.columns ["étÉ", "ID"]) =
          .ok ⟨["ÉTÉ", "id"], [[.text "juin", .integer 7]]⟩) ∧
      (column.answer = .ok () ∧ column.state.renameColumn "items" "ÉTÉ" "Été" = ⟨.ok (), c⟩) ∧
      (table.answer = .ok () ∧ table.state.renameTable "after" "items" = ⟨.ok (), c⟩) ∧
      (database.answer = .ok () ∧ database.state.renameDatabase "zoo" "shop" = ⟨.ok (), idle⟩) := by
  intro calls c idle t t' column table database
  have listed : t ∈ c.allTables := by decide +kernel
  have renamed : t.renameColumn "été" "ÉTÉ" = .ok t' := by decide +kernel
  have before : t.select (.columns ["Été", "id"]) =
      .ok ⟨["Été", "id"], [[.text "juin", .integer 7]]⟩ := by decide +kernel
  have spelled : List.Forall₂
      (fun name name' => Text.SameName name' (Table.renamedTo "été" "ÉTÉ" name))
      ["Été", "id"] ["étÉ", "ID"] :=
    .cons (by decide +kernel) (.cons (by decide +kernel) .nil)
  have outcome {o : Outcome Fault Catalog Unit} (answered : o.answer = .ok ()) :
      o = ⟨.ok (), o.state⟩ := by rw [← answered]
  have columnRenamed : column.answer = .ok () := by decide +kernel
  have tableRenamed : table.answer = .ok () := by decide +kernel
  have databaseRenamed : database.answer = .ok () := by decide +kernel
  obtain ⟨ofTable, ofColumn, ofTableName, -⟩ := renamings_restored calls
  obtain ⟨-, -, -, ofDatabase⟩ := renamings_restored (calls ++ [.leaveDatabase])
  obtain ⟨found, called, alike, restored⟩ := ofTable t listed _ _ _ renamed
  obtain ⟨u, _, first, held, _, stored, _, back⟩ := ofColumn _ _ _ _ (outcome columnRenamed)
  obtain rfl : u = t := Except.ok.inj (held.symm.trans (by decide +kernel))
  obtain rfl : found = ⟨⟨"Été", .varchar 5, none⟩, .texts #["juin"], #[false]⟩ :=
    Option.some.inj (called.symm.trans (by decide +kernel))
  obtain rfl := Option.some.inj (stored.symm.trans called)
  exact ⟨⟨listed, renamed, restored, alike _ _ _ spelled before⟩, ⟨columnRenamed, back⟩,
    ⟨tableRenamed, ofTableName _ _ _ (outcome tableRenamed)⟩,
    ⟨databaseRenamed, ofDatabase _ _ _ (outcome databaseRenamed)⟩⟩

end Catalog

end ColumnStore
