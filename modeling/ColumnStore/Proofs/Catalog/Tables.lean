import ColumnStore.Proofs.Catalog.Directory

/-!
# The tables of a catalog

A table in a catalog was created from checked definitions, and since then calls were made on it and
it was given other names; nothing else happens to a table. So what new tables have, and neither
calls nor new names take away, every table has in every catalog that calls on a new one lead to.
-/

namespace ColumnStore

/-- The tables of all databases. -/
def Catalog.allTables (c : Catalog) : List Table := c.databases.entries.flatMap (·.2.tables)

/-- A property that new tables have and that neither calls nor new names take away. -/
structure Table.Lasting (P : Table → Prop) : Prop where
  created : ∀ {name : String} {definitions : List Column.Definition}, isValidName name = true →
    checkNewColumns [] definitions name = .ok () → P (ofDefinitions name definitions)
  called : ∀ {t : Table}, P t → ∀ call : Call, P (call.perform t).state
  renamed : ∀ {t : Table} {name : String}, P t → isValidName name = true → P { t with name }

theorem Table.lasting_wellFormed : Table.Lasting Table.WellFormed where
  created := wellFormed_ofDefinitions
  called h call := ((h.settles_perform call).keeps ⟨h, rfl⟩).1
  renamed h valid := { h with name := valid }

namespace Directory

variable {P : Table → Prop} {d d' : Directory} {name : String} {tables : List Table}

/-- Every table of every database has the property. -/
def Each (P : Table → Prop) (d : Directory) : Prop :=
  ∀ name tables, d.tables.lookup name = some tables → ∀ t ∈ tables, P t

theorem Each.insert (h : d.Each P) (new : ∀ t ∈ tables, P t) :
    Each P { d with tables := d.tables.insert name tables } := by
  intro other found present
  by_cases here : other = name
  · subst here
    rw [Finmap.lookup_insert, Option.some.injEq] at present
    exact present ▸ new
  · rw [Finmap.lookup_insert_of_ne _ here] at present
    exact h other found present

theorem Each.erase (h : d.Each P) : Each P { d with tables := d.tables.erase name } := by
  intro other found present
  by_cases here : other = name
  · subst here
    rw [Finmap.lookup_erase] at present
    cases present
  · rw [Finmap.lookup_erase_ne here] at present
    exact h other found present

theorem Each.change {f : List Table → Option (List Table)} (h : d.Each P)
    (kept : ∀ before after, f before = some after → (∀ t ∈ before, P t) → ∀ t ∈ after, P t)
    (changed : d.change f = some d') : d'.Each P := by
  simp only [Directory.change, Option.bind_eq_bind, Option.bind_eq_some_iff, Option.pure_def,
    Option.some.injEq] at changed
  obtain ⟨name, _, before, found, after, same, rfl⟩ := changed
  exact h.insert (kept before after same (h name before found))

theorem each_createTable (lasting : Table.Lasting P) {columns : List Column.Definition}
    {before after : List Table} (created : createTable name columns before = some after)
    (h : ∀ t ∈ before, P t) : ∀ t ∈ after, P t := by
  rw [createTable, Option.ite_none_right_eq_some] at created
  obtain ⟨⟨valid, _, checked⟩, same⟩ := created
  cases same
  intro t member
  rcases List.mem_append.mp member with old | new
  · exact h t old
  · exact List.mem_singleton.mp new ▸ lasting.created valid checked

theorem each_dropTable {before after : List Table} (dropped : dropTable name before = some after)
    (h : ∀ t ∈ before, P t) : ∀ t ∈ after, P t := by
  rw [dropTable, Option.ite_none_right_eq_some] at dropped
  cases dropped.2
  exact fun t member => h t (List.mem_of_mem_filter member)

theorem each_renameTable (lasting : Table.Lasting P) {old new : String} {before after : List Table}
    (renamed : renameTable old new before = some after) (h : ∀ t ∈ before, P t) :
    ∀ t ∈ after, P t := by
  rw [renameTable, Option.ite_none_right_eq_some] at renamed
  obtain ⟨⟨_, valid, _⟩, same⟩ := renamed
  cases same
  intro t member
  obtain ⟨u, listed, rfl⟩ := List.mem_map.mp member
  split
  · exact lasting.renamed (h u listed) valid
  · exact h u listed

theorem each_onTable (lasting : Table.Lasting P) {call : Table.Call} {before after : List Table}
    (called : onTable name call before = some after) (h : ∀ t ∈ before, P t) :
    ∀ t ∈ after, P t := by
  simp only [onTable, Option.bind_eq_bind, Option.bind_eq_some_iff] at called
  obtain ⟨u, found, answered⟩ := called
  have next := lasting.called (h u (List.mem_of_find?_eq_some found)) call
  cases answer : (call.perform u).answer with
  | error e => simp [answer] at answered
  | ok result =>
    simp only [answer, Option.pure_def, Option.some.injEq] at answered
    subst answered
    intro t member
    obtain ⟨other, listed, rfl⟩ := List.mem_map.mp member
    split
    · exact next
    · exact h other listed

/-- A request that is allowed leaves a lasting property to all tables. -/
theorem Each.step (lasting : Table.Lasting P) (h : d.Each P) {request : Request}
    (allowed : d.step? request = some d') : d'.Each P := by
  cases request with
  | createDatabase name =>
    rw [step?, Option.ite_none_right_eq_some] at allowed
    cases allowed.2
    exact h.insert (by simp)
  | useDatabase name =>
    rw [step?, Option.ite_none_right_eq_some] at allowed
    cases allowed.2
    exact h
  | leaveDatabase =>
    cases allowed
    exact h
  | dropDatabase name =>
    rw [step?, Option.ite_none_right_eq_some] at allowed
    cases allowed.2
    exact h.erase
  | renameDatabase old new =>
    rw [step?, Option.ite_none_right_eq_some] at allowed
    obtain ⟨tables, found, same⟩ := Option.map_eq_some_iff.mp allowed.2
    cases same
    exact h.erase.insert (h old tables found)
  | databaseNames =>
    cases allowed
    exact h
  | currentName =>
    rw [step?, Option.ite_none_right_eq_some] at allowed
    cases allowed.2
    exact h
  | createTable name columns => exact h.change (fun _ _ => each_createTable lasting) allowed
  | dropTable name => exact h.change (fun _ _ => each_dropTable) allowed
  | renameTable old new => exact h.change (fun _ _ => each_renameTable lasting) allowed
  | tableNames =>
    rw [step?, Option.ite_none_right_eq_some] at allowed
    cases allowed.2
    exact h
  | onTable name call => exact h.change (fun _ _ => each_onTable lasting) allowed

theorem each_foldl (lasting : Table.Lasting P) (h : d.Each P) (calls : List Catalog.Call) :
    Each P (calls.foldl (fun d call => (d.next? call).getD d) d) := by
  induction calls generalizing d with
  | nil => exact h
  | cons call rest ih =>
    have step : ((d.next? call).getD d).Each P := by
      cases next : d.next? call with
      | none => exact h
      | some d' =>
        obtain ⟨request, _, allowed⟩ := Option.bind_eq_some_iff.mp next
        exact h.step lasting allowed
    exact ih step

end Directory

namespace Catalog

/-- Whatever was asked of a new catalog, its tables have every lasting property. -/
theorem forall_allTables {P : Table → Prop} (lasting : Table.Lasting P) (calls : List Call) :
    ∀ t ∈ (empty.after calls).allTables, P t := by
  intro t member
  obtain ⟨entry, listed, within⟩ := List.mem_flatMap.mp member
  have start : empty.directory.Each P := by
    intro name tables found
    simp [directory, empty, Registry.empty, Registry.tables] at found
  have reached := Directory.each_foldl lasting start calls
  rw [← directory_after wellFormed_empty] at reached
  refine reached entry.1 entry.2.tables ?_ t within
  rw [directory, Registry.lookup_tables, Registry.find?_of_mem listed, Option.map_some]

theorem wellFormed_of_allTables (calls : List Call) {t : Table}
    (listed : t ∈ (empty.after calls).allTables) : t.WellFormed :=
  forall_allTables Table.lasting_wellFormed calls t listed

end Catalog

end ColumnStore
