import ColumnStore.Proofs.Catalog.WellFormed
import ColumnStore.Proofs.Statement.Printing
import ColumnStore.Proofs.Table.Insert
import ColumnStore.Proofs.Table.Textual

/-!
# Catalogs that texts have built

Running a text executes a printable statement or nothing at all, and a printable statement keeps a
catalog textual. So a catalog on which only texts were run can be written again: every row of the
current database has an insert statement, whose text appends an equal row and does nothing else.
-/

namespace ColumnStore

open Token (IsIdentifier IsName isIdentifier_iff)

variable {s : Statement} {d : Database} {name old new : String} {α : Type}

/-! ## Databases -/

theorem Database.Textual.onTable {call : Table → Outcome Fault Table α} (h : d.Textual)
    (each : ∀ t ∈ d.tables, (call t).state.byRows.Textual) :
    (d.onTable name call).state.Textual := by
  rw [Database.onTable]
  split
  · next i t position found =>
    refine ⟨h.name, fun other member => ?_⟩
    rcases List.mem_or_eq_of_mem_set member with kept | rfl
    · exact h.tables other kept
    · exact each t (List.mem_of_find?_eq_some found)
  · exact h

theorem textual_ofDefinitions {columns : List Column.Definition} (named : IsIdentifier name)
    (textual : ∀ d ∈ columns, d.Textual) : (Table.ofDefinitions name columns).byRows.Textual where
  name := named
  definitions := by
    simpa [Table.byRows, Table.ofDefinitions, Table.definitions, Column.empty] using textual
  rows := by
    simp [Table.byRows, Table.ofDefinitions, Table.rows]

theorem Database.Textual.createTable {columns : List Column.Definition} {d' : Database}
    (h : d.Textual) (named : IsIdentifier name) (textual : ∀ d ∈ columns, d.Textual)
    (ok : d.createTable name columns = .ok d') : d'.Textual := by
  obtain ⟨_, rest⟩ := check_bind_eq_ok_iff.mp ok
  obtain ⟨_, rest⟩ := guard_eq_ok_iff.mp rest
  obtain ⟨_, appended⟩ := check_bind_eq_ok_iff.mp rest
  rw [← pure_eq_ok_iff.mp appended]
  refine ⟨h.name, List.forall_mem_append.mpr ⟨h.tables, ?_⟩⟩
  exact List.forall_mem_singleton.mpr (textual_ofDefinitions named textual)

theorem Database.Textual.dropTable {dropped : Table × Database} (h : d.Textual)
    (ok : d.dropTable name = .ok dropped) : dropped.2.Textual := by
  obtain ⟨i, _, rest⟩ := bind_eq_ok_iff.mp ok
  obtain ⟨t, _, erased⟩ := bind_eq_ok_iff.mp rest
  rw [← pure_eq_ok_iff.mp erased]
  exact ⟨h.name, fun t member => h.tables t ((List.eraseIdx_sublist d.tables i).subset member)⟩

theorem Database.Textual.renameTable {d' : Database} (h : d.Textual) (named : IsIdentifier new)
    (ok : d.renameTable old new = .ok d') : d'.Textual := by
  obtain ⟨i, _, rest⟩ := bind_eq_ok_iff.mp ok
  obtain ⟨_, rest⟩ := check_bind_eq_ok_iff.mp rest
  obtain ⟨_, rest⟩ := guard_eq_ok_iff.mp rest
  rw [← pure_eq_ok_iff.mp rest]
  refine ⟨h.name, fun t member => ?_⟩
  rcases mem_modify member with kept | ⟨t, listed, rfl⟩
  · exact h.tables _ kept
  · exact { h.tables t (List.mem_of_getElem? listed) with name := named }

namespace Catalog

variable {c : Catalog}

theorem textual_empty : empty.Textual := by
  intro entry member
  cases member

theorem Textual.insert (h : c.Textual) (named : IsIdentifier name) (textual : d.Textual) :
    Textual { c with databases := c.databases.insert name d } := by
  intro entry member
  rcases Registry.mem_insertEntry member with rfl | present
  · exact ⟨named, textual⟩
  · exact h entry present

theorem Textual.commit {new : Except Fault Catalog} (h : c.Textual)
    (each : ∀ s, new = .ok s → s.Textual) : (Outcome.commit c new).state.Textual :=
  (Outcome.settles_commit each).keeps h

theorem Textual.createDatabase (h : c.Textual) (named : IsIdentifier name) :
    (c.createDatabase name).state.Textual := by
  refine h.commit fun s created => ?_
  obtain ⟨_, rest⟩ := check_bind_eq_ok_iff.mp created
  obtain ⟨_, rest⟩ := guard_eq_ok_iff.mp rest
  rw [← pure_eq_ok_iff.mp rest]
  exact h.insert named ⟨named, by simp [Database.empty]⟩

theorem Textual.useDatabase (h : c.Textual) : (c.useDatabase name).state.Textual := by
  refine h.commit fun s used => ?_
  obtain ⟨_, used⟩ := guard_eq_ok_iff.mp used
  rw [← pure_eq_ok_iff.mp used]
  exact h

theorem Textual.dropDatabase (h : c.Textual) : (c.dropDatabase name).state.Textual := by
  refine h.commit fun s dropped => ?_
  obtain ⟨_, dropped⟩ := guard_eq_ok_iff.mp dropped
  rw [← pure_eq_ok_iff.mp dropped]
  exact fun entry member => h entry (mem_of_mem_erase member)

theorem Textual.renameDatabase (h : c.Textual) (named : IsIdentifier new) :
    (c.renameDatabase old new).state.Textual := by
  refine h.commit fun s renamed => ?_
  simp only at renamed
  split at renamed
  · exact (throw_bind_eq_ok_iff.mp renamed).elim
  · obtain ⟨_, rest⟩ := check_bind_eq_ok_iff.mp renamed
    obtain ⟨_, rest⟩ := guard_eq_ok_iff.mp rest
    split at rest
    · cases rest
    · next d found =>
      have before := (h _ (Registry.mem_of_find? found)).2
      have others : Textual { c with databases := c.databases.erase old } :=
        fun entry member => h entry (mem_of_mem_erase member)
      rw [← pure_eq_ok_iff.mp rest]
      exact others.insert named { before with name := named }

theorem Textual.database (h : c.Textual) (chosen : c.database = .ok d) : d.Textual := by
  obtain ⟨name, _, found⟩ := database_eq_ok_iff.mp chosen
  exact (h _ (Registry.mem_of_find? found)).2

theorem Textual.onDatabase {call : Database → Outcome Fault Database α} (h : c.Textual)
    (wellFormed : c.WellFormed)
    (each : ∀ d, c.database = .ok d → d.Textual → (call d).state.Textual) :
    (c.onDatabase call).state.Textual := by
  cases chosen : c.database with
  | error e =>
    rw [onDatabase_of_error chosen]
    exact h
  | ok d =>
    have textual := h.database chosen
    rw [onDatabase_eq wellFormed chosen]
    exact h.insert textual.name (each d chosen textual)

/-- A call on a table keeps the catalog textual if its arguments can be written. -/
theorem Textual.tableCall {o : Table → Outcome Fault Table Unit} (h : c.Textual)
    (wellFormed : c.WellFormed) (call : Table.Call) (arguments : call.Textual)
    (same : ∀ t, (o t).map (fun _ => none) = call.perform t) :
    (c.onTable name o).state.Textual := by
  refine h.onDatabase wellFormed fun d chosen textual => textual.onTable fun t member => ?_
  have sound := ((wellFormed.current_eq chosen).2.tables t member).sound
  have left := Table.textual_perform sound (textual.tables t member) arguments
  rwa [← same] at left

/-! ## Statements and texts -/

theorem textual_of_plain {columns : List Column.Definition}
    (plain : Statement.PlainDefinitions columns)
    (names : ∀ name ∈ columns.map (·.name), IsName name) : ∀ d ∈ columns, d.Textual := by
  intro d member
  refine ⟨isIdentifier_iff.mpr (names _ (List.mem_map_of_mem member)), fun v default => ?_⟩
  rw [plain.2 d member] at default
  cases default

theorem isUnsigned_of_numbers {literals : List Literal}
    (numbers : ∀ n, .number n ∈ literals → 0 ≤ n) : ∀ l ∈ literals, l.IsUnsigned := by
  intro l member
  cases l with
  | number n => exact numbers n member
  | _ => trivial

theorem Textual.execute (h : c.Textual) (wellFormed : c.WellFormed) (printable : s.Printable) :
    (c.execute s).state.Textual := by
  have named : ∀ name ∈ s.names, IsIdentifier name :=
    fun name member => isIdentifier_iff.mpr (printable.names name member)
  have changed {new : Database → Except Fault Database}
      (each : ∀ d d', d.Textual → new d = .ok d' → d'.Textual) :
      (c.onDatabase fun d => .commit d (new d)).state.Textual :=
    h.onDatabase wellFormed fun d _ textual =>
      (Outcome.settles_commit fun d' ok => each d d' textual ok).keeps textual
  cases s with
  | createDatabase name => exact h.createDatabase (named name List.mem_cons_self)
  | dropDatabase name => exact h.dropDatabase
  | useDatabase name => exact h.useDatabase
  | leaveDatabase => exact h
  | renameDatabase old new => exact h.renameDatabase (named new (by simp [Statement.names]))
  | showDatabases | showTables | showCurrentDatabase => exact h
  | select table projection => exact h
  | createTable name columns =>
    have textual := textual_of_plain printable.grammatical fun name member =>
      printable.names name (List.mem_cons_of_mem _ member)
    exact changed fun d d' before ok =>
      before.createTable (named name List.mem_cons_self) textual ok
  | dropTable name =>
    refine changed fun d d' before ok => ?_
    obtain ⟨dropped, removed, rfl⟩ := map_eq_ok_iff.mp ok
    exact before.dropTable removed
  | renameTable old new =>
    have named := named new (by simp [Statement.names])
    exact changed fun d d' before ok => before.renameTable named ok
  | truncateTable table => exact h.tableCall wellFormed .truncate trivial fun _ => rfl
  | insert table columns values =>
    exact h.tableCall wellFormed (.insert columns values) (isUnsigned_of_numbers printable.numbers)
      fun _ => rfl
  | addColumns table columns defaults =>
    have textual := textual_of_plain printable.grammatical.1 fun name member =>
      printable.names name (List.mem_cons_of_mem _ member)
    refine h.tableCall wellFormed (.addColumns columns defaults) ⟨textual, ?_⟩ fun _ => rfl
    rintro literals rfl
    exact isUnsigned_of_numbers printable.numbers
  | removeColumns table columns =>
    exact h.tableCall wellFormed (.removeColumns columns) trivial fun _ => rfl
  | renameColumn table old new =>
    exact h.tableCall wellFormed (.renameColumn old new) (named new (by simp [Statement.names]))
      fun _ => rfl
  | modifyColumns table columns =>
    exact h.tableCall wellFormed (.modifyColumns columns) trivial fun _ => rfl
  | setDefault table column value =>
    have unsigned := isUnsigned_of_numbers printable.numbers value List.mem_cons_self
    exact h.tableCall wellFormed (.setDefault column value) unsigned fun _ => rfl
  | dropDefault table column =>
    exact h.tableCall wellFormed (.dropDefault column) trivial fun _ => rfl

theorem Textual.run (h : c.Textual) (wellFormed : c.WellFormed) (text : String) :
    (c.run text).state.Textual := by
  rw [Catalog.run]
  split
  · exact h
  · next s read => exact h.execute wellFormed (Statement.printable_of_ofText read)

theorem Textual.after_texts (h : c.Textual) (wellFormed : c.WellFormed) (texts : List String) :
    (c.after (texts.map .run)).Textual := by
  induction texts generalizing c with
  | nil => exact h
  | cons text rest ih =>
    exact ih (h.run wellFormed text) ((settles_run wellFormed text).keeps wellFormed)

/-! ## Writing a row again -/

variable {t : Table} {row : Row}

theorem printable_insertion (wellFormed : t.WellFormed) (h : t.byRows.Textual)
    (member : row ∈ t.rows) : (t.insertion row).Printable where
  grammatical := by
    have width := (Table.admits_of_mem_rows wellFormed.sound member).length_eq
    have inhabited : t.columnNames ≠ [] := by
      simpa [Table.columnNames] using wellFormed.inhabited
    exact ⟨inhabited, by simp [Table.columnNames, width]⟩
  names := by
    have columns : ∀ name ∈ t.columnNames, IsName name := by
      rw [← Table.byRows_columnNames]
      exact List.forall_mem_map.mpr fun d listed =>
        isIdentifier_iff.mp (h.definitions d listed).name
    exact List.forall_mem_cons.mpr ⟨isIdentifier_iff.mp h.name, columns⟩
  lengths := by
    intro d member
    cases member
  numbers := by
    intro n written
    obtain ⟨value, present, same⟩ := List.mem_map.mp written
    have unsigned := h.rows row member value present
    cases value with
    | integer m =>
      cases same
      exact unsigned
    | null => cases same
    | text s => cases same

theorem run_insertion {i : Nat} (h : c.Textual) (wellFormed : c.WellFormed)
    (chosen : c.database = .ok d) (entry : d.tables[i]? = some t) (member : row ∈ t.rows) :
    let grown : Database := { d with tables := d.tables.set i (t.withRow row) }
    c.run (t.insertion row).toText =
      ⟨.ok .done, { c with databases := c.databases.insert d.name grown }⟩ := by
  obtain ⟨_, database⟩ := wellFormed.current_eq chosen
  have listed := List.mem_of_getElem? entry
  have table := database.tables t listed
  have printable := printable_insertion table ((h.database chosen).tables t listed) member
  have inserted := Table.insert_literals table (Table.admits_of_mem_rows table.sound member)
  rw [run, Statement.ofText_toText printable]
  simp only [Table.insertion, execute, insert, onTable, onDatabase_eq wellFormed chosen,
    Database.onTable_eq database.distinct entry, inserted]
  rfl

/-- What texts have built is textual, and the text of a row's insert statement appends that row. -/
theorem rows_written_again (texts : List String) :
    let c : Catalog := empty.after (texts.map .run)
    c.Textual ∧
      ∀ (d : Database) (i : Nat) (t : Table), c.database = .ok d → d.tables[i]? = some t →
        ∀ row ∈ t.rows,
          let grown : Database := { d with tables := d.tables.set i (t.withRow row) }
          (t.withRow row).byRows = { t.byRows with rows := t.rows ++ [row] } ∧
            c.run (t.insertion row).toText =
              ⟨.ok .done, { c with databases := c.databases.insert d.name grown }⟩ := by
  intro c
  have wellFormed : c.WellFormed := wellFormed_empty.after _
  have textual : c.Textual := textual_empty.after_texts wellFormed_empty texts
  refine ⟨textual, fun d i t chosen entry row member => ?_⟩
  have sound : t.Sound :=
    ((wellFormed.current_eq chosen).2.tables t (List.mem_of_getElem? entry)).sound
  exact ⟨Table.byRows_withRow sound (Table.admits_of_mem_rows sound member),
    run_insertion textual wellFormed chosen entry member⟩

/-- A number that was written as a text with leading zeros, and a quote. -/
theorem rows_written_again_after_cast :
    let texts := ["create database shop;", "use shop;",
      "create table notes (code varchar(9), body varchar(9));",
      "insert into notes (code, body) values ('007', 'it''s');",
      "modify column (code int) in table notes;", "drop table nothing;"]
    let c : Catalog := empty.after (texts.map .run)
    let t : Table := ⟨"notes", [⟨⟨"code", .integer, none⟩, .integers #[7], #[false]⟩,
      ⟨⟨"body", .varchar 9, none⟩, .texts #["it's"], #[false]⟩], 1⟩
    let row : Row := [.integer 7, .text "it's"]
    let grown : Database := ⟨"shop", [t.withRow row]⟩
    c.database = .ok ⟨"shop", [t]⟩ ∧ row ∈ t.rows ∧
      c.run "INSERT INTO notes ( code , body ) VALUES ( 7 , 'it''s' ) ;" =
        ⟨.ok .done, { c with databases := c.databases.insert "shop" grown }⟩ := by
  intro texts c t row grown
  have chosen : c.database = .ok ⟨"shop", [t]⟩ := by decide +kernel
  have member : row ∈ t.rows := by decide +kernel
  have written : (t.insertion row).toText =
      "INSERT INTO notes ( code , body ) VALUES ( 7 , 'it''s' ) ;" := by
    decide +kernel
  have again := ((rows_written_again texts).2 _ 0 t chosen rfl row member).2
  rw [written] at again
  exact ⟨chosen, member, again⟩

end Catalog

end ColumnStore
