import ColumnStore.Catalog.Shared
import ColumnStore.Proofs.Catalog.Locality
import ColumnStore.Proofs.Table.Refinement

/-!
# Insertions by several clients

An insertion is accepted or refused by the name and the definitions of the table, which no insertion
changes. So the rows that other clients have added meanwhile make no difference to it, and every
interleaving of the clients adds the same rows.
-/

namespace ColumnStore

/-- An interleaving has the entries of its sources. -/
theorem Interleaving.perm {α : Type} {sources : List (List α)} {merged : List α}
    (h : Interleaving sources merged) : merged.Perm sources.flatten := by
  induction h with
  | done spent =>
    rw [List.flatten_eq_nil_iff.mpr spent]
  | @take sources i a rest merged front later ih =>
    obtain ⟨inside, entry⟩ := List.getElem?_eq_some_iff.mp front
    obtain ⟨before, behind, whole, _, drawn⟩ : ∃ before behind, sources = before ++ sources[i] :: behind ∧
        before.length = i ∧ sources.set i rest = before ++ rest :: behind :=
      List.exists_of_set inside
    rw [drawn] at ih
    rw [whole, entry]
    simp only [List.flatten_append, List.flatten_cons, List.cons_append] at ih ⊢
    exact (ih.cons a).trans List.perm_middle.symm

namespace Insertion

variable {t : RowTable} {rows : List Row}

/-- The rows of the table make no difference to an insertion. -/
theorem convert_rows (i : Insertion) : i.convert { t with rows } = i.convert t :=
  rfl

theorem insert_eq (i : Insertion) (t : RowTable) :
    t.insert i.columns i.values =
      (i.convert t).map fun row => { t with rows := t.rows ++ [row] } := by
  rw [RowTable.insert, convert]
  split
  · rfl
  · rw [map_bind_eq]
    refine bind_congr_ok fun assigned _ => ?_
    simp only [RowTable.store, bind_pure_comp]
    rfl

end Insertion

namespace Table

variable {t : Table} {i : Insertion}

theorem length_of_mem_rows {row : Row} (sound : t.Sound) (member : row ∈ t.rows) :
    row.length = t.columnNames.length := by
  rw [rows_eq sound] at member
  obtain ⟨_, _, rfl⟩ := List.mem_map.mp member
  simp [columnNames]

/-- An insertion into a sound table answers, and adds to its rows, what the definitions say. -/
theorem byRows_insertion (sound : t.Sound) (i : Insertion) :
    (t.insert i.columns i.values).answer = (i.convert t.byRows).map (fun _ => ()) ∧
      (t.insert i.columns i.values).state.byRows =
        { t.byRows with rows := t.rows ++ (i.row? t.byRows).toList } := by
  have same : (t.insert i.columns i.values).mapState byRows =
      .commit t.byRows (t.byRows.insert i.columns i.values) := byRows_insert sound i.columns
  rw [Insertion.insert_eq] at same
  have answer := congrArg Outcome.answer same
  have state := congrArg Outcome.state same
  simp only [Outcome.mapState] at answer state
  rw [answer, state, Insertion.row?]
  cases i.convert t.byRows with
  | error e => simp [Outcome.commit, Except.map, byRows]
  | ok row => simp [Outcome.commit, Except.map, byRows]

end Table

namespace Catalog

variable {c : Catalog} {t : Table} {table : String}

/-- One insertion is one step, and its answer depends on the definitions of the table alone. -/
theorem dispatch_insertion (h : c.WellFormed) (found : c.table table = .ok t) (i : Insertion) :
    ∃ c' t', c.dispatch? (i.into table) = some ⟨(i.convert t.byRows).map fun _ => .done, c'⟩ ∧
      c'.WellFormed ∧ c'.table table = .ok t' ∧
      t'.byRows = { t.byRows with rows := t.rows ++ (i.row? t.byRows).toList } := by
  obtain ⟨wellFormed, _⟩ := h.table found
  obtain ⟨answer, rows⟩ := Table.byRows_insertion wellFormed.sound i
  let call : Table.Call := .insert i.columns i.values
  have named : (t.insert i.columns i.values).state.name = t.name :=
    ((wellFormed.settles_perform call).keeps ⟨wellFormed, rfl⟩).2
  have inserted : c.onTable table (·.insert i.columns i.values) =
      ⟨(t.insert i.columns i.values).answer, c.withTable (t.insert i.columns i.values).state⟩ :=
    onTable_eq_withTable h found named
  refine ⟨c.withTable (t.insert i.columns i.values).state, _, ?_, ?_, ?_, rows⟩
  · simp only [dispatch?, Insertion.into, Statement.isReadOnly, Bool.false_eq_true, if_false, execute,
      insert, inserted, answer]
    cases i.convert t.byRows <;> rfl
  · have kept := h.perform (call.on table)
    rwa [perform_on_eq h found] at kept
  · have left := table_perform_on h found call
    rwa [perform_on_eq h found] at left

/-- A run of insertions: each is answered as the first table answers it, and adds its row. -/
theorem dispatchEach_insertions (h : c.WellFormed) (found : c.table table = .ok t)
    (run : List Insertion) :
    ∃ last t', c.dispatchEach? (run.map (·.into table)) =
        some (run.map fun i => (i.convert t.byRows).map fun _ => .done, last) ∧
      last.WellFormed ∧ last.table table = .ok t' ∧
      t'.byRows = { t.byRows with rows := t.rows ++ run.filterMap (·.row? t.byRows) } := by
  induction run generalizing c t with
  | nil => exact ⟨c, t, rfl, h, found, by simp [Table.byRows]⟩
  | cons i rest ih =>
    obtain ⟨c', t', step, wellFormed, held, grown⟩ := dispatch_insertion h found i
    obtain ⟨last, u, later, after, left, rows⟩ := ih wellFormed held
    have same (i : Insertion) : i.convert t'.byRows = i.convert t.byRows := by
      rw [grown, Insertion.convert_rows]
    have listed : t'.rows = t.rows ++ (i.row? t.byRows).toList := congrArg RowTable.rows grown
    refine ⟨last, u, ?_, after, left, ?_⟩
    · simp only [same] at later
      simp [dispatchEach?, step, later]
    · simp only [Insertion.row?, same] at rows listed ⊢
      rw [rows, grown, listed]
      cases converted : i.convert t.byRows <;> simp [converted]

/-- A query for all columns of a table on a shared catalog. -/
theorem dispatch_selectAll (h : c.WellFormed) (found : c.table table = .ok t) :
    c.dispatch? (.select table .all) = some ⟨.ok (.rows ⟨t.columnNames, t.rows⟩), c⟩ := by
  obtain ⟨wellFormed, _⟩ := h.table found
  have read := Table.byRows_select wellFormed.sound .all
  simp only [dispatch?, Statement.isReadOnly, if_true, query?, select, found, ok_bind_eq, ← read,
    RowTable.select, Table.byRows_columnNames]
  rfl

/-- However the lists of insertions of several clients are interleaved on a shared catalog: every
insertion is answered as it is alone and at first, the table keeps its name, definitions and rows
and has one more row for each accepted insertion in the order of execution, the same rows in every
interleaving. A query in between answers with the first of these rows, each as long as the list of
columns. -/
theorem shared_insertions_keep_rows (calls : List Call) {table : String} {t : Table}
    (found : (empty.after calls).table table = .ok t) {clients : List (List Insertion)}
    {run : List Insertion} (merged : Interleaving clients run) :
    let c := empty.after calls
    (∀ i : Insertion, ∃ reply, c.reply? (i.into table) = some reply ∧
      ((∃ r, reply = .ok r) ↔ (i.row? t.byRows).isSome)) ∧
    ∃ answers last u, c.dispatchEach? (run.map (·.into table)) = some (answers, last) ∧
      answers.map some = run.map (fun i => c.reply? (i.into table)) ∧
      last.table table = .ok u ∧
      u.byRows = { t.byRows with rows := t.rows ++ run.filterMap (·.row? t.byRows) } ∧
      u.rows.Perm (t.rows ++ clients.flatten.filterMap (·.row? t.byRows)) ∧
      ∀ before later, run = before ++ later → ∃ mid rows,
        c.dispatchEach? (before.map (·.into table)) = some (answers.take before.length, mid) ∧
        mid.dispatch? (.select table .all) = some ⟨.ok (.rows ⟨t.columnNames, rows⟩), mid⟩ ∧
        rows <+: u.rows ∧ ∀ row ∈ rows, row.length = t.columnNames.length := by
  intro c
  have h : c.WellFormed := wellFormed_empty.after calls
  have alone (i : Insertion) : c.reply? (i.into table) =
      some ((i.convert t.byRows).map fun _ => .done) := by
    obtain ⟨c', t', step, _⟩ := dispatch_insertion h found i
    rw [reply?, step]
    rfl
  have reached (run : List Insertion) := dispatchEach_insertions h found run
  obtain ⟨last, u, executed, _, left, grown⟩ := reached run
  have listed : u.rows = t.rows ++ run.filterMap (·.row? t.byRows) := congrArg RowTable.rows grown
  refine ⟨fun i => ⟨_, alone i, ?_⟩, _, last, u, executed, ?_, left, grown, ?_, ?_⟩
  · rw [Insertion.row?]
    cases i.convert t.byRows <;> simp [Except.map]
  · simp [alone]
  · rw [listed]
    exact (merged.perm.filterMap _).append_left _
  · rintro before later rfl
    obtain ⟨mid, v, started, wellFormed, held, rows⟩ := reached before
    have names : v.columnNames = t.columnNames := by
      rw [← Table.byRows_columnNames, rows]
      exact Table.byRows_columnNames t
    have some : v.rows = t.rows ++ before.filterMap (·.row? t.byRows) := congrArg RowTable.rows rows
    refine ⟨mid, v.rows, by simpa using started, ?_, ⟨later.filterMap (·.row? t.byRows), ?_⟩, ?_⟩
    · rw [dispatch_selectAll wellFormed held, names]
    · rw [some, listed, List.filterMap_append, List.append_assoc]
    · intro row member
      rw [← names]
      exact Table.length_of_mem_rows (wellFormed.table held).1.sound member

/-- Two clients, one of whose insertions names a column twice. -/
theorem shared_insertions_keep_rows_two_clients :
    let calls : List Call := [.createDatabase "shop", .useDatabase "shop", .createTable "items"
      [⟨"id", .integer, none⟩, ⟨"tag", .varchar 3, some (.text "new")⟩]]
    let c := empty.after calls
    let first : Insertion := ⟨["tag", "ID"], [.string "old", .number 1]⟩
    let refused : Insertion := ⟨["id", "Id"], [.number 2, .number 2]⟩
    let second : Insertion := ⟨["id"], [.number 3]⟩
    let run := [second, first, refused]
    ∃ answers last u, c.dispatchEach? (run.map (·.into "items")) = some (answers, last) ∧
      answers = [.ok .done, .ok .done,
        .error (.columnMismatch "items" ["id", "tag"] ["id", "Id"])] ∧
      last.table "items" = .ok u ∧
      u.rows = [[.integer 3, .text "new"], [.integer 1, .text "old"]] := by
  intro calls c first refused second run
  let t : Table := .ofDefinitions "items"
    [⟨"id", .integer, none⟩, ⟨"tag", .varchar 3, some (.text "new")⟩]
  have found : c.table "items" = .ok t := by decide +kernel
  have merged : Interleaving [[first, refused], [second]] run :=
    .take (i := 1) rfl (.take (i := 0) rfl (.take (i := 0) rfl (.done (by simp))))
  obtain ⟨_, answers, last, u, executed, replies, left, grown, _⟩ :=
    shared_insertions_keep_rows calls found merged
  have listed : u.rows = t.rows ++ run.filterMap (·.row? t.byRows) := congrArg RowTable.rows grown
  refine ⟨answers, last, u, executed, ?_, left, listed.trans (by decide +kernel)⟩
  exact List.map_injective_iff.mpr (Option.some_injective _) (replies.trans (by decide +kernel))

end Catalog

end ColumnStore
