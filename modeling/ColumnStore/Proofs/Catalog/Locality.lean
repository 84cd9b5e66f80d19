import ColumnStore.Proofs.Catalog.Directory
import ColumnStore.Proofs.Database.Locality

/-!
# Calls on one table are local

On a well-formed catalog, a call on a table answers what the same call answers on the table alone,
and replaces the table by what that call leaves. Replacing a table leaves the rest of the catalog
in its place, and so calls on different tables may be made in either order.
-/

namespace ColumnStore

/-! ## Replacing an entry -/

namespace Registry

variable {α : Type}

theorem insertEntry_cons_self (name : String) (a b : α) (rest : List (String × α)) :
    insertEntry name b ((name, a) :: rest) = (name, b) :: rest := by
  rw [insertEntry, if_neg (String.lt_irrefl name), if_neg (String.lt_irrefl name)]

theorem insertEntry_insertEntry (name : String) (a b : α) (entries : List (String × α)) :
    insertEntry name b (insertEntry name a entries) = insertEntry name b entries := by
  induction entries with
  | nil => exact insertEntry_cons_self name a b []
  | cons first rest ih =>
    by_cases below : name < first.1
    · have put (c : α) : insertEntry name c (first :: rest) = (name, c) :: first :: rest := by
        rw [insertEntry, if_pos below]
      rw [put, put, insertEntry_cons_self]
    · by_cases beyond : first.1 < name
      · have put (c : α) (others : List (String × α)) :
            insertEntry name c (first :: others) = first :: insertEntry name c others := by
          rw [insertEntry, if_neg below, if_pos beyond]
        rw [put, put, put, ih]
      · have put (c : α) : insertEntry name c (first :: rest) = (name, c) :: rest := by
          rw [insertEntry, if_neg below, if_neg beyond]
        rw [put, put, insertEntry_cons_self]

/-- The later of two entries of one name counts. -/
theorem insert_insert (r : Registry α) (name : String) (a b : α) :
    (r.insert name a).insert name b = r.insert name b := by
  simp only [insert, insertEntry_insertEntry]

theorem map_fst_insertEntry {name : String} {a : α} {entries : List (String × α)}
    (ascending : entries.Pairwise (·.1 < ·.1)) (present : name ∈ entries.map Prod.fst) :
    (insertEntry name a entries).map Prod.fst = entries.map Prod.fst := by
  induction entries with
  | nil => cases present
  | cons first rest ih =>
    obtain ⟨above, tail⟩ := List.pairwise_cons.mp ascending
    rw [insertEntry]
    rcases List.mem_cons.mp present with rfl | later
    · rw [if_neg (String.lt_irrefl first.1), if_neg (String.lt_irrefl first.1)]
      rfl
    · obtain ⟨entry, listed, rfl⟩ := List.mem_map.mp later
      have beyond : first.1 < entry.1 := above entry listed
      rw [if_neg (String.not_lt.mpr (Std.le_of_lt beyond)), if_pos beyond, List.map_cons,
        ih tail later, List.map_cons]

/-- An entry that is replaced keeps its place. -/
theorem names_insert {r : Registry Database} {name : String} (d : Database)
    (present : r.contains name = true) : (r.insert name d).names = r.names :=
  map_fst_insertEntry r.ascending (mem_names_iff.mpr present)

end Registry

namespace Catalog

variable {c : Catalog} {d : Database} {t u : Table} {name other : String} {α : Type} {e : Fault}

/-! ## Replacing a table of a catalog -/

theorem table_eq_ok_iff : c.table name = .ok t ↔ ∃ d, c.database = .ok d ∧ d.table name = .ok t :=
  bind_eq_ok_iff

theorem withTable_eq (chosen : c.database = .ok d) (t : Table) :
    c.withTable t = { c with databases := c.databases.insert d.name (d.withTable t) } := by
  rw [withTable, chosen]

theorem database_withTable (h : c.WellFormed) (chosen : c.database = .ok d) (t : Table) :
    (c.withTable t).database = .ok (d.withTable t) := by
  obtain ⟨current, _⟩ := h.current_eq chosen
  rw [withTable_eq chosen, database_insert current]

theorem table_withTable (h : c.WellFormed) (chosen : c.database = .ok d) (t : Table)
    (name : String) : (c.withTable t).table name = (d.withTable t).table name := by
  rw [table, database_withTable h chosen, ok_bind_eq]

theorem table_withTable_self (h : c.WellFormed) (found : c.table t.name = .ok u) :
    (c.withTable t).table t.name = .ok t := by
  obtain ⟨d, chosen, found⟩ := table_eq_ok_iff.mp found
  rw [table_withTable h chosen, Database.table_withTable_self found]

theorem table_withTable_of_ne (h : c.WellFormed) (apart : name ≠ t.name) :
    (c.withTable t).table name = c.table name := by
  cases chosen : c.database with
  | error e => rw [withTable, chosen]
  | ok d => rw [table_withTable h chosen, Database.table_withTable_of_ne apart, table, chosen,
      ok_bind_eq]

theorem withTable_of_table (h : c.WellFormed) (found : c.table name = .ok t) :
    c.withTable t = c := by
  obtain ⟨d, chosen, found⟩ := table_eq_ok_iff.mp found
  obtain ⟨_, wellFormed⟩ := h.current_eq chosen
  rw [withTable_eq chosen, Database.withTable_of_table wellFormed.distinct found,
    Registry.insert_of_find? (h.find?_of_database chosen)]

theorem withTable_withTable (h : c.WellFormed) (named : u.name = t.name) :
    (c.withTable t).withTable u = c.withTable u := by
  cases chosen : c.database with
  | error e => simp only [withTable, chosen]
  | ok d =>
    rw [withTable_eq (database_withTable h chosen t), withTable_eq chosen, withTable_eq chosen]
    simp only [Registry.insert_insert, Database.name_withTable,
      Database.withTable_withTable named]

theorem withTable_comm (h : c.WellFormed) (apart : t.name ≠ u.name) :
    (c.withTable t).withTable u = (c.withTable u).withTable t := by
  cases chosen : c.database with
  | error e => simp only [withTable, chosen]
  | ok d =>
    rw [withTable_eq (database_withTable h chosen t), withTable_eq chosen,
      withTable_eq (database_withTable h chosen u), withTable_eq chosen]
    simp only [Registry.insert_insert, Database.name_withTable, Database.withTable_comm apart]

/-- Replacing a table changes nothing beside it. -/
theorem agreeBeside_withTable (h : c.WellFormed) (found : c.table t.name = .ok u) :
    c.AgreeBeside t.name (c.withTable t) := by
  obtain ⟨d, chosen, _⟩ := table_eq_ok_iff.mp found
  obtain ⟨current, _⟩ := h.current_eq chosen
  have written := withTable_eq chosen t
  refine ⟨by rw [written], ?_, ?_, ?_⟩
  · rw [written, databaseNames, databaseNames, Registry.names_insert _ (h.current d.name current)]
  · intro database apart
    have other : database ≠ d.name := by
      rintro rfl
      exact apart current
    rw [written, Registry.find?_insert, if_neg other]
  · exact ⟨d, d.withTable t, chosen, database_withTable h chosen t, rfl,
      Database.tableNames_withTable d t, fun i u apart => Database.getElem?_withTable_of_ne apart⟩

/-! ## Calls -/

theorem onTable_of_error {call : Table → Outcome Fault Table α} (h : c.WellFormed)
    (missing : c.table name = .error e) : c.onTable name call = ⟨.error e, c⟩ := by
  cases chosen : c.database with
  | error none =>
    rw [table, chosen] at missing
    cases missing
    rw [onTable, onDatabase_of_error chosen]
  | ok d =>
    rw [table, chosen, ok_bind_eq] at missing
    rw [onTable, onDatabase_eq h chosen, Database.onTable_of_error missing,
      Registry.insert_of_find? (h.find?_of_database chosen)]

theorem onTable_eq_withTable {call : Table → Outcome Fault Table α} (h : c.WellFormed)
    (found : c.table name = .ok t) (named : (call t).state.name = t.name) :
    c.onTable name call = ⟨(call t).answer, c.withTable (call t).state⟩ := by
  obtain ⟨d, chosen, found⟩ := table_eq_ok_iff.mp found
  obtain ⟨_, wellFormed⟩ := h.current_eq chosen
  rw [onTable, onDatabase_eq h chosen,
    Database.onTable_eq_withTable wellFormed.distinct found named, withTable_eq chosen]

/-- A call that commits replaces the table by the one that it makes. -/
theorem onTable_commit_eq_ok_iff {c' : Catalog} {made : Table → Except Fault Table}
    (h : c.WellFormed) (named : ∀ t t', made t = .ok t' → t'.name = t.name) :
    c.onTable name (fun t => .commit t (made t)) = ⟨.ok (), c'⟩ ↔
      ∃ t t', c.table name = .ok t ∧ made t = .ok t' ∧ c.withTable t' = c' := by
  cases found : c.table name with
  | error e => simp [onTable_of_error h found]
  | ok t =>
    have same : (Outcome.commit t (made t)).state.name = t.name := by
      cases result : made t with
      | error e => rfl
      | ok t' => exact named t t' result
    rw [onTable_eq_withTable h found same]
    cases result : made t <;> simp [Outcome.commit, result]

/-- A table that is found is well formed and bears the name it was found by. -/
theorem WellFormed.table (h : c.WellFormed) (found : c.table name = .ok t) :
    t.WellFormed ∧ t.name = name := by
  obtain ⟨d, chosen, found⟩ := table_eq_ok_iff.mp found
  obtain ⟨_, wellFormed⟩ := h.current_eq chosen
  obtain ⟨i, entry⟩ := Database.entry_of_table found
  exact ⟨wellFormed.tables t (List.mem_of_getElem? entry), Database.name_of_table found⟩

/-- Where the table is missing, each call on it is refused for that. -/
theorem perform_on_of_error (h : c.WellFormed) (missing : c.table name = .error e)
    (call : Table.Call) : (call.on name).perform c = ⟨.error (.refused e), c⟩ := by
  have absent (o : Table → Outcome Fault Table Unit) :
      Call.perform.done (c.onTable name o) = ⟨.error (.refused e), c⟩ := by
    rw [onTable_of_error h missing]
    rfl
  cases call with
  | select projection =>
    have unread : c.select name projection = .error e := by
      rw [select, missing]
      rfl
    simp only [Table.Call.on, Call.perform, unread]
    rfl
  | _ => exact absent _

/-- A call on a table of the catalog is the call on the table alone, which is then replaced. -/
theorem perform_on_eq (h : c.WellFormed) (found : c.table name = .ok t) (call : Table.Call) :
    (call.on name).perform c =
      ⟨((call.perform t).answer.map Reply.ofResult).mapError .refused,
        c.withTable (call.perform t).state⟩ := by
  obtain ⟨wellFormed, _⟩ := h.table found
  have named : (call.perform t).state.name = t.name :=
    ((wellFormed.settles_perform call).keeps ⟨wellFormed, rfl⟩).2
  have replaced (o : Table → Outcome Fault Table Unit)
      (same : (o t).map (fun _ => none) = call.perform t) :
      Call.perform.done (c.onTable name o) =
        ⟨((call.perform t).answer.map Reply.ofResult).mapError .refused,
          c.withTable (call.perform t).state⟩ := by
    rw [← same] at named ⊢
    rw [onTable_eq_withTable h found named]
    cases answer : (o t).answer <;>
      simp only [Call.perform.done, Outcome.map, Outcome.mapError, answer] <;> rfl
  cases call with
  | select projection =>
    have read : c.select name projection = t.select projection := by
      rw [select, found, ok_bind_eq]
    simp only [Table.Call.on, Call.perform, Table.Call.perform, read, withTable_of_table h found]
    cases t.select projection <;> rfl
  | truncate => exact replaced (fun t => ⟨.ok (), t.truncate⟩) rfl
  | insertRow names literals => exact replaced (·.insertRow names literals) rfl
  | insert names literals => exact replaced (·.insert names literals) rfl
  | addColumns new defaults => exact replaced (fun t => .commit t (t.addColumns new defaults)) rfl
  | removeColumns names => exact replaced (fun t => .commit t (t.removeColumns names)) rfl
  | renameColumn old new => exact replaced (fun t => .commit t (t.renameColumn old new)) rfl
  | modifyColumns definitions =>
    exact replaced (fun t => .commit t (t.modifyColumns definitions)) rfl
  | setDefault name literal => exact replaced (fun t => .commit t (t.setDefault name literal)) rfl
  | dropDefault name => exact replaced (fun t => .commit t (t.dropDefault name)) rfl

theorem WellFormed.perform (h : c.WellFormed) (call : Call) : (call.perform c).state.WellFormed :=
  (settles_perform h call).keeps h

theorem name_perform (h : c.WellFormed) (found : c.table name = .ok t) (call : Table.Call) :
    (call.perform t).state.name = name := by
  obtain ⟨wellFormed, named⟩ := h.table found
  exact ((wellFormed.settles_perform call).keeps ⟨wellFormed, rfl⟩).2.trans named

/-- The table that a call leaves is the one it leaves of the table alone. -/
theorem table_perform_on (h : c.WellFormed) (found : c.table name = .ok t) (call : Table.Call) :
    ((call.on name).perform c).state.table name = .ok (call.perform t).state := by
  have named := name_perform h found call
  rw [perform_on_eq h found]
  rw [← named] at found ⊢
  exact table_withTable_self h found

theorem table_perform_on_of_ne (h : c.WellFormed) (apart : name ≠ other) (call : Table.Call) :
    ((call.on name).perform c).state.table other = c.table other := by
  cases found : c.table name with
  | error e => rw [perform_on_of_error h found]
  | ok t =>
    rw [perform_on_eq h found]
    exact table_withTable_of_ne h (name_perform h found call ▸ apart.symm)

/-- The answer depends on the table alone. -/
theorem answer_perform_on_congr {c' : Catalog} (h : c.WellFormed) (h' : c'.WellFormed)
    (same : c'.table name = c.table name) (call : Table.Call) :
    ((call.on name).perform c').answer = ((call.on name).perform c).answer := by
  cases found : c.table name with
  | error e => rw [perform_on_of_error h found, perform_on_of_error h' (same.trans found)]
  | ok t => rw [perform_on_eq h found, perform_on_eq h' (same.trans found)]

/-- Calls on different tables leave the same catalog in either order. -/
theorem state_perform_on_comm (h : c.WellFormed) (apart : name ≠ other) (call call' : Table.Call) :
    ((call'.on other).perform ((call.on name).perform c).state).state =
      ((call.on name).perform ((call'.on other).perform c).state).state := by
  have kept := table_perform_on_of_ne h apart call
  have kept' := table_perform_on_of_ne h apart.symm call'
  have next := h.perform (call.on name)
  have next' := h.perform (call'.on other)
  cases found : c.table name with
  | error e =>
    rw [perform_on_of_error next' (kept'.trans found), perform_on_of_error h found]
  | ok t =>
    cases found' : c.table other with
    | error e =>
      rw [perform_on_of_error next (kept.trans found'), perform_on_of_error h found']
    | ok u =>
      have distinct : (call.perform t).state.name ≠ (call'.perform u).state.name := by
        rw [name_perform h found, name_perform h found']
        exact apart
      rw [perform_on_eq next (kept.trans found'), perform_on_eq next' (kept'.trans found),
        perform_on_eq h found, perform_on_eq h found']
      exact withTable_comm h distinct

/-- Whatever has been asked of two new catalogs, a call on a table that both current databases hold
in the same state changes nothing beside that table, has the same answer in both and leaves the same
table in both, and calls on tables of different names may be made in either order. -/
theorem tableCall_local (calls : List Call) {name : String} {t : Table}
    (found : (empty.after calls).table name = .ok t) (call : Table.Call) :
    let c := empty.after calls
    let o := (call.on name).perform c
    c.AgreeBeside name o.state ∧
      (∃ t', o.state.table name = .ok t' ∧
        ∀ others : List Call, (empty.after others).table name = .ok t →
          ((call.on name).perform (empty.after others)).answer = o.answer ∧
            ((call.on name).perform (empty.after others)).state.table name = .ok t') ∧
      ∀ (other : String) (call' : Table.Call), name ≠ other →
        let o' := (call'.on other).perform c
        ((call'.on other).perform o.state).answer = o'.answer ∧
          ((call.on name).perform o'.state).answer = o.answer ∧
          ((call'.on other).perform o.state).state = ((call.on name).perform o'.state).state := by
  intro c o
  have h : c.WellFormed := wellFormed_empty.after calls
  refine ⟨?_, ⟨(call.perform t).state, table_perform_on h found call, ?_⟩, ?_⟩
  · have named := name_perform h found call
    have beside := agreeBeside_withTable h (named.symm ▸ found)
    rw [named] at beside
    rwa [show o = _ from perform_on_eq h found call]
  · intro others held
    have h' : (empty.after others).WellFormed := wellFormed_empty.after others
    exact ⟨answer_perform_on_congr h h' (held.trans found.symm) call,
      table_perform_on h' held call⟩
  · intro other call' apart o'
    exact ⟨answer_perform_on_congr h (h.perform _) (table_perform_on_of_ne h apart call) call',
      answer_perform_on_congr h (h.perform _) (table_perform_on_of_ne h apart.symm call') call,
      state_perform_on_comm h apart call call'⟩

/-- One table in two databases, and another table beside it in one of them. -/
theorem tableCall_local_shared_table :
    let calls : List Call := [.createDatabase "shop", .useDatabase "shop",
      .createTable "items" [⟨"id", .integer, none⟩], .createTable "tags" [⟨"tag", .varchar 3, none⟩],
      .insertRow "items" ["id"] [.number 1]]
    let others : List Call := [.run "CREATE DATABASE depot;", .run "USE depot;",
      .run "CREATE TABLE items (id INT);", .run "INSERT INTO items (id) VALUES (1);"]
    let c := empty.after calls
    let c' := empty.after others
    let t : Table := ⟨"items", [⟨⟨"id", .integer, none⟩, .integers #[1], #[false]⟩], 1⟩
    let renamed := (Table.Call.renameColumn "ID" "key").on "items"
    let insertion := (Table.Call.insert ["tag"] [.string "long"]).on "tags"
    (c.table "items" = .ok t ∧ c'.table "items" = .ok t) ∧
      c.AgreeBeside "items" (renamed.perform c).state ∧
      (renamed.perform c').answer = (renamed.perform c).answer ∧
      (insertion.perform (renamed.perform c).state).answer =
        .error (.refused (.valueTooLong "tag" 3 4)) ∧
      (insertion.perform (renamed.perform c).state).state =
        (renamed.perform (insertion.perform c).state).state := by
  intro calls others c c' t renamed insertion
  have found : c.table "items" = .ok t := by decide +kernel
  have held : c'.table "items" = .ok t := by decide +kernel
  have refused : (insertion.perform c).answer = .error (.refused (.valueTooLong "tag" 3 4)) := by
    decide +kernel
  obtain ⟨beside, ⟨_, _, same⟩, commutes⟩ :=
    tableCall_local calls found (.renameColumn "ID" "key")
  obtain ⟨second, _, state⟩ := commutes "tags" (.insert ["tag"] [.string "long"]) (by decide)
  exact ⟨⟨found, held⟩, beside, (same others held).1, second.trans refused, state⟩

end Catalog

end ColumnStore
