import ColumnStore.Proofs.Table.Removal
import ColumnStore.Proofs.Table.Retyping

/-!
# Batches of columns

A list of columns is added, removed or retyped in one call that looks at the old table. Here the
same is done in one call for each column, where every call looks at the table of the one before.
-/

namespace ColumnStore.Table

variable {t t' mid : Table} {names order : List String} {name : String}
  {new definitions : List Column.Definition} {d : Column.Definition}

/-- The table behind a list of calls, if each of them is answered. -/
def afterEach? (t : Table) (calls : List Call) : Option Table :=
  calls.foldlM (fun t call => (call.perform t).success?) t

/-- The calls that add columns one at a time, each with the default that is given for it. -/
def additions (new : List Column.Definition) : Option (List Literal) → List Call
  | none => new.map fun d => .addColumns [d] none
  | some literals => (new.zip literals).map fun (d, literal) => .addColumns [d] (some [literal])

/-- No two of the names denote the same column. Unknown names may be repeated. -/
def Apart (t : Table) (names : List String) : Prop := (names.filterMap t.position?).Nodup

instance : Decidable (t.Apart names) := inferInstanceAs (Decidable (List.Nodup _))

/-! ## One call and one call for each -/

theorem success?_done_commit (made : Except Fault Table) :
    (Call.perform.done (.commit t made)).success? = made.toOption := by
  rw [Call.perform.done, Outcome.success?_map, Outcome.success?_commit]

theorem afterEach?_cons (call : Call) (rest : List Call) :
    t.afterEach? (call :: rest) = (call.perform t).success?.bind (·.afterEach? rest) :=
  List.foldlM_cons

/-- A list is taken in steps if its first entry can be taken in front of the others, which are then
again taken in steps. -/
theorem afterEach?_map {α : Type} (batch : Table → List α → Except Fault Table) (step : α → Call)
    (P : Table → List α → Prop) (empty : ∀ t, P t [] → batch t [] = .ok t)
    (alone : ∀ t a, ((step a).perform t).success? = (batch t [a]).toOption)
    (first : ∀ t a rest, rest ≠ [] → P t (a :: rest) → ∀ t',
      batch t (a :: rest) = .ok t' ↔ ∃ mid, batch t [a] = .ok mid ∧ batch mid rest = .ok t')
    (others : ∀ t a rest mid, rest ≠ [] → P t (a :: rest) → batch t [a] = .ok mid → P mid rest)
    {entries : List α} (h : P t entries) :
    t.afterEach? (entries.map step) = (batch t entries).toOption := by
  induction entries generalizing t with
  | nil =>
    rw [empty t h]
    rfl
  | cons a rest ih =>
    rw [List.map_cons, afterEach?_cons, alone]
    -- An addition of no columns is refused, so the last entry has to end the steps by itself.
    by_cases last : rest = []
    · subst last
      exact Option.bind_fun_some _
    · refine Option.ext fun t' => ?_
      rw [Option.bind_eq_some_iff, toOption_eq_some_iff, first t a rest last h]
      refine exists_congr fun mid => ?_
      rw [toOption_eq_some_iff]
      refine and_congr_right fun taken => ?_
      rw [ih (others t a rest mid last h taken), toOption_eq_some_iff]

/-! ## Additions -/

section Additions

variable {rest : List Column.Definition}

theorem joinable_cons {existing between : List Column.Definition} (more : rest ≠ [])
    (names : (between.map fun d => Text.fold d.name) =
      (existing.map fun d => Text.fold d.name) ++ [Text.fold d.name]) :
    Joinable existing (d :: rest) ↔ Joinable existing [d] ∧ Joinable between rest := by
  constructor
  · intro h
    obtain ⟨fresh, distinct⟩ := List.nodup_cons.mp h.distinct
    obtain ⟨apart, disjoint⟩ := List.disjoint_cons_right.mp h.fresh
    refine ⟨⟨by simp, ?_, ?_, ?_, by simp, by simpa using apart⟩, ⟨more, ?_, ?_, ?_, distinct, ?_⟩⟩
    · simpa using h.names d (by simp)
    · simpa using h.types d (by simp)
    · simpa using h.defaults d (by simp)
    · exact fun other member => h.names other (List.mem_cons_of_mem d member)
    · exact fun other member => h.types other (List.mem_cons_of_mem d member)
    · exact fun other member => h.defaults other (List.mem_cons_of_mem d member)
    · rw [names, List.disjoint_append_left]
      exact ⟨disjoint, by simpa using fresh⟩
  · rintro ⟨h, later⟩
    have apart := later.fresh
    rw [names, List.disjoint_append_left] at apart
    have first := h.fresh
    refine ⟨by simp, ?_, ?_, ?_, ?_, ?_⟩
    · exact List.forall_mem_cons.mpr ⟨h.names d (by simp), later.names⟩
    · exact List.forall_mem_cons.mpr ⟨h.types d (by simp), later.types⟩
    · exact List.forall_mem_cons.mpr ⟨h.defaults d (by simp), later.defaults⟩
    · exact List.nodup_cons.mpr ⟨by simpa using apart.2, later.distinct⟩
    · exact List.disjoint_cons_right.mpr ⟨by simpa using first, apart.1⟩

theorem provides_cons (d : Column.Definition) (rest : List Column.Definition)
    (given : Option (Literal × List Literal)) :
    Provides (d :: rest) (given.map fun p => p.1 :: p.2) ↔
      Provides [d] (given.map fun p => [p.1]) ∧ Provides rest (given.map (·.2)) := by
  cases given with
  | none => simp [Provides]
  | some p => simp [Provides, and_left_comm]

/-- The first of several definitions is added with the first of the defaults, if there are any. -/
theorem addColumns_cons (d : Column.Definition) (more : rest ≠ [])
    (given : Option (Literal × List Literal)) :
    t.addColumns (d :: rest) (given.map fun p => p.1 :: p.2) = .ok t' ↔
      ∃ mid, t.addColumns [d] (given.map fun p => [p.1]) = .ok mid ∧
        mid.addColumns rest (given.map (·.2)) = .ok t' := by
  have columns : addedColumns t.rowCount (d :: rest) (given.map fun p => p.1 :: p.2) =
      addedColumns t.rowCount [d] (given.map fun p => [p.1]) ++
        addedColumns t.rowCount rest (given.map (·.2)) := by
    cases given <;> rfl
  simp only [addColumns_eq_ok_iff]
  let mid : Table :=
    { t with columns := t.columns ++ addedColumns t.rowCount [d] (given.map fun p => [p.1]) }
  have between (provided : Provides [d] (given.map fun p => [p.1])) :
      (mid.definitions.map fun d => Text.fold d.name) =
        (t.definitions.map fun d => Text.fold d.name) ++ [Text.fold d.name] := by
    rw [← folded_columns, ← folded_columns, List.map_append, folded_addedColumns provided]
    rfl
  rw [provides_cons, columns, ← List.append_assoc]
  constructor
  · rintro ⟨joinable, ⟨provided, later⟩, rfl⟩
    obtain ⟨first, others⟩ := (joinable_cons more (between provided)).mp joinable
    exact ⟨mid, ⟨first, provided, rfl⟩, others, later, rfl⟩
  · rintro ⟨_, ⟨first, provided, rfl⟩, others, later, rfl⟩
    exact ⟨(joinable_cons more (between provided)).mpr ⟨first, others⟩, ⟨provided, later⟩, rfl⟩

theorem afterEach?_additions {defaults : Option (List Literal)} (inhabited : new ≠ [])
    (full : ∀ literals, defaults = some literals → literals.length = new.length) :
    t.afterEach? (additions new defaults) = (t.addColumns new defaults).toOption := by
  cases defaults with
  | none =>
    refine afterEach?_map (·.addColumns · none) (fun d => .addColumns [d] none)
      (fun _ new => new ≠ []) ?_ ?_ ?_ ?_ inhabited
    · exact fun _ empty => absurd rfl empty
    · exact fun _ _ => success?_done_commit _
    · exact fun t d rest more _ t' => addColumns_cons d more none
    · exact fun _ _ _ _ more _ _ => more
  | some literals =>
    have first : (new.zip literals).map Prod.fst = new :=
      List.map_fst_zip (Nat.le_of_eq (full literals rfl).symm)
    have second : (new.zip literals).map Prod.snd = literals :=
      List.map_snd_zip (Nat.le_of_eq (full literals rfl))
    let batch (t : Table) (pairs : List (Column.Definition × Literal)) : Except Fault Table :=
      t.addColumns (pairs.map Prod.fst) (some (pairs.map Prod.snd))
    have whole : batch t (new.zip literals) = t.addColumns new (some literals) := by
      simp only [batch, first, second]
    rw [← whole]
    refine afterEach?_map batch (fun (d, literal) => .addColumns [d] (some [literal]))
      (fun _ pairs => pairs ≠ []) ?_ ?_ ?_ ?_ ?_
    · exact fun _ empty => absurd rfl empty
    · exact fun _ _ => success?_done_commit _
    · exact fun t pair rest more _ t' =>
        addColumns_cons pair.1 (by simpa using more) (some (pair.2, rest.map Prod.snd))
    · exact fun _ _ _ _ more _ _ => more
    · intro none
      rw [none] at first
      exact inhabited first.symm

end Additions

/-! ## Removals -/

theorem apart_iff : t.Apart names ↔
    names.Pairwise fun a b => Text.fold a = Text.fold b →
      Text.fold a ∉ t.columns.map Column.folded := by
  rw [Apart, List.Nodup, List.pairwise_filterMap]
  refine List.Pairwise.iff fun a b => ?_
  constructor
  · intro apart same listed
    obtain ⟨i, found⟩ := Option.isSome_iff_exists.mp (isSome_position?_iff.mpr listed)
    exact apart i found i (position?_of_fold same ▸ found) rfl
  · rintro apart i found _ found' rfl
    have same := Option.some.inj
      ((folded_of_position? found).symm.trans (folded_of_position? found'))
    exact apart same (List.mem_of_getElem? (folded_of_position? found))

/-- A column is left by a removal if it was there and bears none of the names. -/
theorem mem_folded_spared {f : List Char} :
    f ∈ (t.spared names).map Column.folded ↔
      f ∈ t.columns.map Column.folded ∧ f ∉ names.map Text.fold := by
  simp only [spared, List.mem_map, List.mem_filter, decide_eq_true_eq]
  constructor
  · rintro ⟨c, ⟨member, left⟩, rfl⟩
    exact ⟨⟨c, member, rfl⟩, left⟩
  · rintro ⟨⟨c, member, rfl⟩, left⟩
    exact ⟨c, ⟨member, left⟩, rfl⟩

theorem spared_spared (t : Table) (first later : List String) :
    spared { t with columns := t.spared first } later = t.spared (first ++ later) := by
  simp only [spared, List.filter_filter, List.map_append, List.mem_append, not_or, Bool.decide_and,
    Bool.and_comm]

theorem removeColumns_nil (h : t.WellFormed) : t.removeColumns [] = .ok t := by
  have all : t.spared [] = t.columns := by simp [spared]
  refine (removeColumns_eq_ok_iff h).mpr ⟨by simp, ?_, ?_⟩
  · rw [all]
    exact h.inhabited
  · rw [all]

theorem removeColumns_cons (h : t.WellFormed) (apart : t.Apart (name :: names)) :
    t.removeColumns (name :: names) = .ok t' ↔
      ∃ mid, t.removeColumns [name] = .ok mid ∧ mid.removeColumns names = .ok t' := by
  have both := t.spared_spared [name] names
  constructor
  · intro removed
    obtain ⟨known, remaining, rfl⟩ := (removeColumns_eq_ok_iff h).mp removed
    obtain ⟨here, later⟩ := List.forall_mem_cons.mp known
    have single : t.removeColumns [name] = .ok { t with columns := t.spared [name] } := by
      refine (removeColumns_eq_ok_iff h).mpr ⟨by simpa using here, fun none => ?_, rfl⟩
      refine remaining ?_
      rw [spared, none] at both
      exact both.symm
    refine ⟨_, single, (removeColumns_eq_ok_iff (h.change (change_of_removeColumns single))).mpr
      ⟨fun other member => mem_folded_spared.mpr ⟨later other member, ?_⟩, ?_, ?_⟩⟩
    · -- A name of the removed column would be unknown in the next step.
      have different := (List.pairwise_cons.mp (apart_iff.mp apart)).1 other member
      intro same
      exact different (List.mem_singleton.mp same).symm here
    · rw [both]
      exact remaining
    · rw [both]
      rfl
  · rintro ⟨mid, single, rest⟩
    have h' := h.change (change_of_removeColumns single)
    obtain ⟨here, _, rfl⟩ := (removeColumns_eq_ok_iff h).mp single
    obtain ⟨later, remaining, rfl⟩ := (removeColumns_eq_ok_iff h').mp rest
    rw [both] at remaining ⊢
    refine (removeColumns_eq_ok_iff h).mpr
      ⟨List.forall_mem_cons.mpr ⟨by simpa using here, ?_⟩, remaining, rfl⟩
    exact fun other member => (mem_folded_spared.mp (later other member)).1

theorem Apart.of_removeColumns (h : t.WellFormed) (apart : t.Apart (name :: names))
    (removed : t.removeColumns [name] = .ok mid) : mid.Apart names := by
  obtain ⟨_, _, rfl⟩ := (removeColumns_eq_ok_iff h).mp removed
  have others := (List.pairwise_cons.mp (apart_iff.mp apart)).2
  refine apart_iff.mpr (others.imp fun different same listed => ?_)
  exact different same (mem_folded_spared.mp listed).1

theorem afterEach?_removals (h : t.WellFormed) (apart : t.Apart names) :
    t.afterEach? (names.map fun name => .removeColumns [name]) =
      (t.removeColumns names).toOption := by
  refine afterEach?_map removeColumns (fun name => .removeColumns [name])
    (fun t names => t.WellFormed ∧ t.Apart names) ?_ ?_ ?_ ?_ ⟨h, apart⟩
  · exact fun t h => removeColumns_nil h.1
  · exact fun _ _ => success?_done_commit _
  · exact fun t name rest _ h t' => removeColumns_cons h.1 h.2
  · exact fun t name rest mid _ h removed =>
      ⟨h.1.change (change_of_removeColumns removed), h.2.of_removeColumns h.1 removed⟩

theorem removeColumns_perm (h : t.WellFormed) (same : order.Perm names) :
    t.removeColumns order = .ok t' ↔ t.removeColumns names = .ok t' := by
  have folds (f : List Char) : f ∈ order.map Text.fold ↔ f ∈ names.map Text.fold :=
    (same.map Text.fold).mem_iff
  simp only [removeColumns_eq_ok_iff h, spared, folds, same.mem_iff]

/-! ## New types -/

theorem Apart.elsewhere {i : Nat} (apart : t.Apart (name :: names))
    (here : t.position? name = some i) : ∀ other ∈ names, t.position? other ≠ some i := by
  rw [Apart, List.filterMap_cons_some here, List.nodup_cons] at apart
  intro other member again
  exact apart.1 (List.mem_filterMap.mpr ⟨other, member, again⟩)

theorem modifyColumns_single_eq_ok_iff :
    t.modifyColumns [d] = .ok t' ↔ ∃ i c, t.position d.name = .ok i ∧
      t.modifiedColumn d = .ok c ∧ { t with columns := t.columns.set i c } = t' := by
  rw [modifyColumns_single]
  simp only [bind_eq_ok_iff, map_eq_ok_iff, exists_and_left]

/-- What is made for the other definitions is the same after a column was written. -/
theorem forall₂_made_set {i : Nat} {c : Column} {pairs : List (Nat × Column)}
    (names : ({ t with columns := t.columns.set i c } : Table).columnNames = t.columnNames)
    (elsewhere : ∀ d ∈ definitions, t.position? d.name ≠ some i) :
    let mid : Table := { t with columns := t.columns.set i c }
    List.Forall₂ (fun d pair => mid.position d.name = .ok pair.1 ∧
        mid.modifiedColumn d = .ok pair.2) definitions pairs ↔
      List.Forall₂ (fun d pair => t.position d.name = .ok pair.1 ∧
        t.modifiedColumn d = .ok pair.2) definitions pairs := by
  intro mid
  refine forall₂_congr_mem fun d member pair => ?_
  rw [position_congr names]
  refine and_congr_right fun position => ?_
  have apart : i ≠ pair.1 := by
    intro same
    exact elsewhere d member (same ▸ position_eq_ok_iff.mp position)
  rw [modifiedColumn_congr names position (List.getElem?_set_ne apart)]

theorem modifyColumns_cons {rest : List Column.Definition}
    (apart : t.Apart (d.name :: rest.map (·.name))) :
    t.modifyColumns (d :: rest) = .ok t' ↔
      ∃ mid, t.modifyColumns [d] = .ok mid ∧ mid.modifyColumns rest = .ok t' := by
  have elsewhere {i : Nat} (here : t.position d.name = .ok i) :
      ∀ other ∈ rest, t.position? other.name ≠ some i := by
    intro other member
    exact apart.elsewhere (position_eq_ok_iff.mp here) other.name (List.mem_map_of_mem member)
  have names {i : Nat} {c : Column} (here : t.position d.name = .ok i)
      (made : t.modifiedColumn d = .ok c) :
      ({ t with columns := t.columns.set i c } : Table).columnNames = t.columnNames := by
    have single := modifyColumns_single_eq_ok_iff.mpr ⟨i, c, here, made, rfl⟩
    exact (retyped_of_modifyColumns single).columnNames_eq
  simp only [modifyColumns_single_eq_ok_iff]
  constructor
  · intro modified
    obtain ⟨pairs, made, distinct, rfl⟩ := modifyColumns_eq_ok_iff.mp modified
    obtain ⟨⟨i, c⟩, others, ⟨here, first⟩, rest, rfl⟩ := List.forall₂_cons_left_iff.mp made
    have distinct := (List.nodup_cons.mp distinct).2
    have later := (forall₂_made_set (names here first) (elsewhere here)).mpr rest
    exact ⟨_, ⟨i, c, here, first, rfl⟩, modifyColumns_eq_ok_iff.mpr ⟨others, later, distinct, rfl⟩⟩
  · rintro ⟨_, ⟨i, c, here, first, rfl⟩, modified⟩
    obtain ⟨others, made, distinct, rfl⟩ := modifyColumns_eq_ok_iff.mp modified
    have rest := (forall₂_made_set (names here first) (elsewhere here)).mp made
    refine modifyColumns_eq_ok_iff.mpr ⟨(i, c) :: others, .cons ⟨here, first⟩ rest, ?_, rfl⟩
    -- A column that is named twice would be refused by the batch, but not by the steps.
    refine List.nodup_cons.mpr ⟨fun written => ?_, distinct⟩
    obtain ⟨⟨_, _⟩, listed, rfl⟩ := List.mem_map.mp written
    obtain ⟨other, member, position, _⟩ := exists_left_of_forall₂ rest listed
    exact elsewhere here other member (position_eq_ok_iff.mp position)

theorem Apart.of_modifyColumns (apart : t.Apart (name :: names))
    (modified : t.modifyColumns definitions = .ok mid) : mid.Apart names := by
  have positions := position?_congr (retyped_of_modifyColumns modified).columnNames_eq
  have others : (names.filterMap t.position?).Nodup :=
    List.Nodup.sublist ((List.sublist_cons_self name names).filterMap t.position?) apart
  rwa [Apart, List.filterMap_congr fun other _ => positions other]

theorem afterEach?_modifications (apart : t.Apart (definitions.map (·.name))) :
    t.afterEach? (definitions.map fun d => .modifyColumns [d]) =
      (t.modifyColumns definitions).toOption := by
  refine afterEach?_map modifyColumns (fun d => .modifyColumns [d])
    (fun t definitions => t.Apart (definitions.map (·.name))) ?_ ?_ ?_ ?_ apart
  · exact fun _ _ => rfl
  · exact fun _ _ => success?_done_commit _
  · exact fun t d rest _ apart t' => modifyColumns_cons apart
  · exact fun t d rest mid _ apart modified => apart.of_modifyColumns modified

theorem modifyColumns_of_perm {order : List Column.Definition} (same : order.Perm definitions)
    (modified : t.modifyColumns definitions = .ok t') : t.modifyColumns order = .ok t' := by
  obtain ⟨pairs, made, distinct, rfl⟩ := modifyColumns_eq_ok_iff.mp modified
  obtain ⟨pairs', made', reordered⟩ := List.perm_comp_forall₂ same made
  have distinct' := (reordered.map Prod.fst).nodup_iff.mpr distinct
  refine modifyColumns_eq_ok_iff.mpr ⟨pairs', made', distinct', ?_⟩
  rw [foldl_set_perm distinct' reordered]

/-! ## Every batch -/

theorem Apart.perm (apart : t.Apart names) (same : order.Perm names) : t.Apart order :=
  (same.filterMap t.position?).nodup_iff.mpr apart

/-- In every table of a catalog a batch does what its steps do one after the other. Definitions are
added in their order, with defaults for all of them or for none; columns that are different are
removed or take new types in any order. Both ways end in the same table or both are refused. -/
theorem batch_eq_steps (calls : List Catalog.Call)
    (listed : t ∈ (Catalog.empty.after calls).allTables) :
    (∀ (new : List Column.Definition) defaults, new ≠ [] →
      (∀ literals, defaults = some literals → literals.length = new.length) →
      ((Call.addColumns new defaults).perform t).success? =
        t.afterEach? (additions new defaults)) ∧
    (∀ names order : List String, t.Apart names → order.Perm names →
      ((Call.removeColumns names).perform t).success? =
        t.afterEach? (order.map fun name => .removeColumns [name])) ∧
    ∀ definitions order : List Column.Definition,
      t.Apart (definitions.map (·.name)) → order.Perm definitions →
      ((Call.modifyColumns definitions).perform t).success? =
        t.afterEach? (order.map fun d => .modifyColumns [d]) := by
  have h := Catalog.wellFormed_of_allTables calls listed
  refine ⟨fun new defaults inhabited full => ?_, fun names order apart same => ?_,
    fun definitions order apart same => ?_⟩
  · rw [afterEach?_additions inhabited full]
    exact success?_done_commit _
  · rw [afterEach?_removals h (apart.perm same)]
    refine (success?_done_commit _).trans (Option.ext fun t' => ?_)
    rw [toOption_eq_some_iff, toOption_eq_some_iff, removeColumns_perm h same]
  · rw [afterEach?_modifications (apart.perm (same.map _))]
    refine (success?_done_commit _).trans (Option.ext fun t' => ?_)
    rw [toOption_eq_some_iff, toOption_eq_some_iff]
    exact ⟨modifyColumns_of_perm same, modifyColumns_of_perm same.symm⟩

/-- Two columns are added with defaults, two of three are removed in the other order, and two take
new types; but all columns are removed neither at once nor one at a time. -/
theorem batch_eq_steps_items :
    let definitions : List Column.Definition :=
      [⟨"id", .integer, none⟩, ⟨"code", .varchar 4, some (.text "0007")⟩, ⟨"qty", .integer, none⟩]
    let calls : List Catalog.Call := [.createDatabase "shop", .useDatabase "shop",
      .createTable "items" definitions,
      .insert "items" ["id", "qty"] [.number 1, .number (-2)],
      .insert "items" ["code"] [.string "042"]]
    let t := (ofDefinitions "items" definitions).after
      [.insert ["id", "qty"] [.number 1, .number (-2)], .insert ["code"] [.string "042"]]
    let added := (Call.addColumns [⟨"tag", .varchar 3, none⟩, ⟨"rank", .integer, some (.integer 9)⟩]
      (some [.string "new", .default])).perform t
    let removed := (Call.removeColumns ["ID", "qty"]).perform t
    let emptied := (Call.removeColumns ["id", "code", "qty"]).perform t
    let modified :=
      (Call.modifyColumns [⟨"code", .integer, none⟩, ⟨"qty", .varchar 2, none⟩]).perform t
    t ∈ (Catalog.empty.after calls).allTables ∧
      added.success? = t.afterEach? [.addColumns [⟨"tag", .varchar 3, none⟩] (some [.string "new"]),
        .addColumns [⟨"rank", .integer, some (.integer 9)⟩] (some [.default])] ∧
      removed.success? = t.afterEach? [.removeColumns ["qty"], .removeColumns ["ID"]] ∧
      emptied.success? =
        t.afterEach? [.removeColumns ["code"], .removeColumns ["id"], .removeColumns ["qty"]] ∧
      modified.success? = t.afterEach? [.modifyColumns [⟨"qty", .varchar 2, none⟩],
        .modifyColumns [⟨"code", .integer, none⟩]] ∧
      added.success?.isSome = true ∧ removed.success?.isSome = true ∧
      emptied.success? = none ∧ modified.success?.isSome = true := by
  intro definitions calls t added removed emptied modified
  have listed : t ∈ (Catalog.empty.after calls).allTables := by decide +kernel
  obtain ⟨additions, removals, modifications⟩ := batch_eq_steps calls listed
  refine ⟨listed, ?_, ?_, ?_, ?_, ?_⟩
  · exact additions _ (some [.string "new", .default]) (by simp) (by simp)
  · exact removals ["ID", "qty"] ["qty", "ID"] (by decide +kernel) (by decide)
  · exact removals ["id", "code", "qty"] ["code", "id", "qty"] (by decide +kernel) (by decide)
  · exact modifications _ [⟨"qty", .varchar 2, none⟩, ⟨"code", .integer, none⟩]
      (by decide +kernel) (List.Perm.swap _ _ _)
  · decide +kernel

end ColumnStore.Table
