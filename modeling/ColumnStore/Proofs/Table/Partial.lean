import ColumnStore.Proofs.Catalog.Tables
import ColumnStore.Proofs.Table.Insert
import ColumnStore.Table.Partial

/-!
# Insertions into some of the columns

The names of an insertion are looked up from left to right, its literals are brought into the order
of the columns and completed, and the result is stored as a row. Read column by column this is an
exact condition, a first fault and a new row, and neither the condition nor the row depends on the
order in which the columns are listed.
-/

namespace ColumnStore

/-- In a list without repetitions no entry stands before itself. -/
theorem nodup_iff_not_mem_take {α : Type} {xs : List α} :
    xs.Nodup ↔ ∀ i a, xs[i]? = some a → a ∉ xs.take i := by
  rw [List.nodup_iff_getElem?_ne_getElem?]
  constructor
  · intro apart i a entry before
    obtain ⟨j, bound, same⟩ := List.mem_take_iff_getElem.mp before
    obtain ⟨inside, _⟩ := List.getElem?_eq_some_iff.mp entry
    refine apart j i (by omega) inside ?_
    rw [entry, ← same]
    exact List.getElem?_eq_getElem _
  · intro fresh i j before inside same
    have entry := List.getElem?_eq_getElem inside
    refine fresh j _ entry (List.mem_take_iff_getElem.mpr ⟨i, by omega, ?_⟩)
    rw [List.getElem?_eq_getElem (by omega), List.getElem?_eq_getElem inside] at same
    exact Option.some.inj same

namespace Column.Definition

variable {d : Definition} {literal : Literal} {value : Value}

/-- A literal is converted exactly if the column takes it. -/
theorem convert_eq_ok_iff :
    d.convert literal = .ok value ↔ d.Takes literal ∧ d.valueOf literal = value := by
  unfold convert
  cases literal with
  | null => simp [Takes, valueOf]
  | number n => cases kind : d.type <;> simp [Takes, valueOf, kind]
  | string s =>
    cases kind : d.type with
    | integer => simp [Takes, kind]
    | varchar limit =>
      have fits : d.check (.text s) = .ok () ↔ s.length ≤ limit.toNat := by
        simp [check_eq_ok_iff, kind, ColumnType.Admits]
      simp [Takes, valueOf, kind, map_eq_ok_iff, Unique.exists_iff, fits]
  | default => cases stored : d.default <;> simp [Takes, valueOf, stored]

theorem refusal?_convert_eq_none_iff : refusal? (d.convert literal) = none ↔ d.Takes literal := by
  simp [refusal?_eq_none_iff, convert_eq_ok_iff]

end Column.Definition

namespace Table

variable {t : Table} {names : List String} {literals : List Literal}
  {pairs pairs' : List (String × Literal)} {name : String} {i : Nat}

/-! ## Names -/

theorem nameFaultAt?_eq_none_iff {entry : String × Nat} :
    t.nameFaultAt? names entry = none ↔ (t.position? entry.1).isSome = true ∧
      t.position? entry.1 ∉ (names.take entry.2).map t.position? := by
  rw [nameFaultAt?]
  cases t.position? entry.1 <;> simp

theorem nameFault?_eq_none_iff :
    t.nameFault? names = none ↔
      (∀ name ∈ names, (t.position? name).isSome = true) ∧ (names.map t.position?).Nodup := by
  rw [nameFault?, List.findSome?_eq_none_iff, nodup_iff_not_mem_take]
  simp only [nameFaultAt?_eq_none_iff, List.mem_zipIdx_iff_getElem?, List.getElem?_map,
    Option.map_eq_some_iff, ← List.map_take]
  constructor
  · intro each
    refine ⟨fun name member => ?_, ?_⟩
    · obtain ⟨i, entry⟩ := List.getElem?_of_mem member
      exact (each (name, i) entry).1
    · rintro i _ ⟨name, entry, rfl⟩
      exact (each (name, i) entry).2
  · rintro ⟨known, fresh⟩ ⟨name, i⟩ entry
    exact ⟨known name (List.mem_of_getElem? entry), fresh i _ ⟨name, entry, rfl⟩⟩

/-- The names are refused for the first fault. The names in `done` have their literals already. -/
theorem refusal?_assign {done rest : List String} {assigned : List (Nat × Literal)}
    (full : literals.length = rest.length)
    (taken : ∀ i, (assigned.lookup i).isSome = true ↔ some i ∈ done.map t.position?) :
    refusal? (t.assign (done ++ rest) assigned (rest.zip literals)) =
      (rest.zipIdx done.length).findSome? (t.nameFaultAt? (done ++ rest)) := by
  induction rest generalizing done literals assigned with
  | nil => rfl
  | cons name rest ih =>
    obtain ⟨literal, literals, rfl⟩ := List.exists_cons_of_length_eq_add_one full
    rw [List.zip_cons_cons, List.zipIdx_cons, List.findSome?_cons, assign_cons, nameFaultAt?,
      List.take_left, position]
    cases found : t.position? name with
    | none => rfl
    | some i =>
      simp only [ok_bind_eq, taken]
      by_cases repeated : some i ∈ done.map t.position?
      · simp only [if_pos repeated]
        rfl
      · simp only [if_neg repeated]
        have next : ∀ j, (((i, literal) :: assigned).lookup j).isSome = true ↔
            some j ∈ (done ++ [name]).map t.position? := by
          intro j
          by_cases here : j = i
          · simp [here, found]
          · simp [List.lookup_cons, beq_eq_false_iff_ne.mpr here, taken, found, here]
        have tail := ih (by simpa using full) next
        simpa using tail

/-- Names that all denote columns have a list of positions. -/
theorem exists_positions (known : ∀ name ∈ names, (t.position? name).isSome = true) :
    ∃ positions, names.mapM t.position = .ok positions := by
  rw [← refusal?_eq_none_iff, refusal?_mapM, List.findSome?_eq_none_iff]
  intro name member
  obtain ⟨i, found⟩ := Option.isSome_iff_exists.mp (known name member)
  exact refusal?_eq_none_iff.mpr ⟨i, position_eq_ok_iff.mpr found⟩

/-! ## The literals of the columns -/

/-- Of names without a fault, the one that denotes a column brings the literal listed for it. -/
theorem listed?_eq_some_iff {c : Column} {literal : Literal} (h : t.WellFormed)
    (distinct : (pairs.map fun pair => t.position? pair.1).Nodup) (entry : t.columns[i]? = some c) :
    c.definition.listed? pairs = some literal ↔
      ∃ name, (name, literal) ∈ pairs ∧ t.position? name = some i := by
  have found (pair : String × Literal) := h.find?_named_eq_some_iff (a := pair) distinct entry
  rw [Column.Definition.listed?, Option.map_eq_some_iff]
  refine (exists_congr fun pair => and_congr_left' (found pair)).trans ?_
  simp only [Prod.exists, exists_eq_right]

theorem map_position?_zip (full : names.length = literals.length) :
    ((names.zip literals).map fun pair => t.position? pair.1) = names.map t.position? := by
  have first : (names.zip literals).map Prod.fst = names := List.map_fst_zip (by omega)
  conv_rhs => rw [← first, List.map_map]
  rfl

/-- Assigned to positions, each column has the literal that is listed for it. -/
theorem lookup_assigned {c : Column} {positions : List Nat} (h : t.WellFormed)
    (full : names.length = literals.length) (located : names.map t.position? = positions.map some)
    (distinct : (names.map t.position?).Nodup) (entry : t.columns[i]? = some c) :
    (positions.zip literals).reverse.lookup i = c.definition.listed? (names.zip literals) := by
  have width : names.length = positions.length := by simpa using congrArg List.length located
  have once : ((positions.zip literals).reverse.map Prod.fst).Nodup := by
    rw [located] at distinct
    rw [List.map_reverse, List.map_fst_zip (by omega), List.nodup_reverse]
    exact distinct.of_map some
  have same : (positions.zip literals).map (Prod.map some id) =
      (names.zip literals).map (Prod.map t.position? id) := by
    rw [← List.zip_map, ← List.zip_map, located]
  refine Option.ext fun literal => ?_
  rw [lookup_eq_some_iff_mem once, List.mem_reverse,
    listed?_eq_some_iff h (map_position?_zip full ▸ distinct) entry]
  have member := congrArg ((some i, literal) ∈ ·) same
  simpa [List.mem_map, Prod.map] using member

/-- Names without a fault bring every column its literal, and the columns that are left out their
default or NULL. -/
theorem insert_eq_store_listed (h : t.WellFormed) (full : names.length = literals.length)
    (faultless : t.nameFault? names = none) :
    t.insert names literals = t.store (t.columns.map fun c =>
      (c.definition.listed? (names.zip literals)).getD (omitted c)) := by
  obtain ⟨known, distinct⟩ := nameFault?_eq_none_iff.mp faultless
  obtain ⟨positions, found⟩ := exists_positions known
  have located := mapM_position_eq_ok_iff.mp found
  have once : (positions ++ ([] : List (Nat × Literal)).map Prod.fst).Nodup := by
    rw [located] at distinct
    simpa using distinct.of_map some
  rw [insert, if_neg (not_not.mpr full), assign_of_positions found full.symm once]
  refine congrArg t.store (List.ext_getElem (by simp) fun i inside _ => ?_)
  have bound : i < t.columns.length := by simpa using inside
  have entry : t.columns[i]? = some t.columns[i] := List.getElem?_eq_getElem bound
  simp [lookup_assigned h full located distinct entry]

theorem convert_listed (c : Column) (pairs : List (String × Literal)) :
    c.definition.convert ((c.definition.listed? pairs).getD (omitted c)) =
      match c.definition.listed? pairs with
      | some literal => c.definition.convert literal
      | none => .ok (c.definition.default.getD .null) := by
  cases c.definition.listed? pairs with
  | some literal => rfl
  | none =>
    cases default : c.definition.default <;>
      simp [omitted, Column.Definition.convert, default]

/-- The literals of all columns are refused for the first that does not fit, and else make the new
row. -/
theorem converted_listed (t : Table) (pairs : List (String × Literal)) :
    t.converted (t.columns.map fun c => (c.definition.listed? pairs).getD (omitted c)) =
      match t.literalFault? pairs with
      | some e => .error e
      | none => .ok (t.newRow pairs) := by
  have each : t.converted (t.columns.map fun c => (c.definition.listed? pairs).getD (omitted c)) =
      t.columns.mapM fun c =>
        c.definition.convert ((c.definition.listed? pairs).getD (omitted c)) := by
    rw [converted, ← List.map_prod_left_eq_zip, List.mapM_map]
    rfl
  have first : refusal? (t.columns.mapM fun c =>
      c.definition.convert ((c.definition.listed? pairs).getD (omitted c))) =
        t.literalFault? pairs := by
    rw [refusal?_mapM, literalFault?, definitions, List.findSome?_map]
    congr 1
    funext c
    rw [convert_listed, Function.comp_apply]
    cases c.definition.listed? pairs <;> rfl
  rw [each]
  cases fault : t.literalFault? pairs with
  | some e => exact refusal?_eq_some_iff.mp (first.trans fault)
  | none =>
    rw [newRow, definitions, List.map_map]
    refine mapM_eq_ok_map fun c member => ?_
    rw [literalFault?, definitions, List.findSome?_map, List.findSome?_eq_none_iff] at fault
    have fits := fault c member
    rw [convert_listed, Function.comp_apply, Column.Definition.newValue]
    cases listed : c.definition.listed? pairs with
    | none => rfl
    | some literal =>
      simp only [Function.comp_apply, listed, Option.bind_some] at fits
      have taken := Column.Definition.refusal?_convert_eq_none_iff.mp fits
      exact Column.Definition.convert_eq_ok_iff.mpr ⟨taken, rfl⟩

/-! ## The insertion as a whole -/

/-- An insertion is refused for its first fault, and else adds the new row. -/
theorem insert_eq (h : t.WellFormed) (names : List String) (literals : List Literal) :
    t.insert names literals =
      match t.insertFault? names literals with
      | some e => ⟨.error e, t⟩
      | none => ⟨.ok (), t.withRow (t.newRow (names.zip literals))⟩ := by
  rw [insertFault?]
  by_cases full : names.length = literals.length
  · rw [if_neg (not_not.mpr full)]
    cases fault : t.nameFault? names with
    | some e =>
      have unassigned : ∀ i, (([] : List (Nat × Literal)).lookup i).isSome = true ↔
          some i ∈ ([] : List String).map t.position? := by
        simp
      have first := (refusal?_assign full.symm unassigned).trans fault
      have refused : t.assign names [] (names.zip literals) = .error e :=
        refusal?_eq_some_iff.mp first
      rw [insert, if_neg (not_not.mpr full), refused]
      rfl
    | none =>
      rw [insert_eq_store_listed h full fault, store_eq h.sound (by simp), converted_listed,
        Option.none_or]
      cases t.literalFault? (names.zip literals) <;> rfl
  · rw [if_pos full, insert, if_pos full]

theorem literalFault?_eq_none_iff (h : t.WellFormed)
    (distinct : (pairs.map fun pair => t.position? pair.1).Nodup) :
    t.literalFault? pairs = none ↔
      ∀ pair ∈ pairs, ∀ c, t.column? pair.1 = some c → c.definition.Takes pair.2 := by
  rw [literalFault?, definitions, List.findSome?_map, List.findSome?_eq_none_iff]
  simp only [Function.comp_apply, Option.bind_eq_none_iff,
    Column.Definition.refusal?_convert_eq_none_iff]
  constructor
  · rintro each ⟨name, literal⟩ member c denoted
    rw [column?_eq, Option.bind_eq_some_iff] at denoted
    obtain ⟨i, position, entry⟩ := denoted
    exact each c (List.mem_of_getElem? entry) literal
      ((listed?_eq_some_iff h distinct entry).mpr ⟨name, member, position⟩)
  · intro fits c member literal listed
    obtain ⟨i, entry⟩ := List.getElem?_of_mem member
    obtain ⟨name, given, position⟩ := (listed?_eq_some_iff h distinct entry).mp listed
    refine fits (name, literal) given c ?_
    rw [column?_eq, position, Option.bind_some, entry]

theorem insertFault?_eq_none_iff (h : t.WellFormed) :
    t.insertFault? names literals = none ↔ t.Accepts names literals := by
  rw [insertFault?]
  by_cases full : names.length = literals.length
  · rw [if_neg (not_not.mpr full), Option.or_eq_none_iff, nameFault?_eq_none_iff]
    constructor
    · rintro ⟨⟨known, distinct⟩, fits⟩
      exact ⟨full, known, distinct,
        (literalFault?_eq_none_iff h (map_position?_zip full ▸ distinct)).mp fits⟩
    · intro accepted
      have distinct := map_position?_zip full ▸ accepted.distinct
      exact ⟨⟨accepted.known, accepted.distinct⟩,
        (literalFault?_eq_none_iff h distinct).mpr accepted.fits⟩
  · rw [if_pos full]
    exact ⟨fun unfaulted => (by cases unfaulted), fun accepted => absurd accepted.count full⟩

theorem insert_of_accepts (h : t.WellFormed) (accepted : t.Accepts names literals) :
    t.insert names literals = ⟨.ok (), t.withRow (t.newRow (names.zip literals))⟩ := by
  rw [insert_eq h, (insertFault?_eq_none_iff h).mpr accepted]

theorem insert_of_not_accepts (h : t.WellFormed) (refused : ¬ t.Accepts names literals) :
    ∃ e, t.insertFault? names literals = some e ∧ t.insert names literals = ⟨.error e, t⟩ := by
  rw [← insertFault?_eq_none_iff h] at refused
  obtain ⟨e, fault⟩ := Option.ne_none_iff_exists'.mp refused
  exact ⟨e, fault, by rw [insert_eq h, fault]⟩

theorem answer_insert_eq_ok_iff (h : t.WellFormed) :
    (t.insert names literals).answer = .ok () ↔ t.Accepts names literals := by
  by_cases accepted : t.Accepts names literals
  · simp [insert_of_accepts h accepted, accepted]
  · obtain ⟨e, _, refused⟩ := insert_of_not_accepts h accepted
    simp [refused, accepted]

/-- The columns can hold the new row. -/
theorem admits_newRow (h : t.WellFormed) (accepted : t.Accepts names literals) :
    t.Admits (t.newRow (names.zip literals)) := by
  have fits := (literalFault?_eq_none_iff h
    (map_position?_zip accepted.count ▸ accepted.distinct)).mpr accepted.fits
  have made := converted_listed t (names.zip literals)
  rw [fits] at made
  exact admits_of_converted h.sound (by simp) made

/-! ## The order of the columns -/

theorem accepts_perm (same : pairs.Perm pairs')
    (accepted : t.Accepts (pairs.map Prod.fst) (pairs.map Prod.snd)) :
    t.Accepts (pairs'.map Prod.fst) (pairs'.map Prod.snd) where
  count := by simp
  known name member := accepted.known name ((same.map Prod.fst).mem_iff.mpr member)
  distinct := ((same.map Prod.fst).map t.position?).nodup_iff.mp accepted.distinct
  fits pair member := by
    rw [← List.zip_of_prod rfl rfl] at member
    refine accepted.fits pair ?_
    rw [← List.zip_of_prod rfl rfl]
    exact same.mem_iff.mpr member

theorem newRow_perm (h : t.WellFormed) (same : pairs.Perm pairs')
    (distinct : (pairs.map fun pair => t.position? pair.1).Nodup) :
    t.newRow pairs = t.newRow pairs' := by
  have distinct' : (pairs'.map fun pair => t.position? pair.1).Nodup :=
    (same.map _).nodup_iff.mp distinct
  refine List.map_congr_left fun d member => ?_
  obtain ⟨c, within, rfl⟩ := List.mem_map.mp member
  obtain ⟨i, entry⟩ := List.getElem?_of_mem within
  have listed : c.definition.listed? pairs = c.definition.listed? pairs' := by
    refine Option.ext fun literal => ?_
    simp only [listed?_eq_some_iff h distinct entry, listed?_eq_some_iff h distinct' entry,
      same.mem_iff]
  rw [Column.Definition.newValue, Column.Definition.newValue, listed]

theorem insert_perm (h : t.WellFormed) (same : pairs.Perm pairs') :
    (t.Accepts (pairs.map Prod.fst) (pairs.map Prod.snd) ↔
      t.Accepts (pairs'.map Prod.fst) (pairs'.map Prod.snd)) ∧
    (t.insert (pairs.map Prod.fst) (pairs.map Prod.snd)).state =
      (t.insert (pairs'.map Prod.fst) (pairs'.map Prod.snd)).state := by
  refine ⟨⟨accepts_perm same, accepts_perm same.symm⟩, ?_⟩
  by_cases accepted : t.Accepts (pairs.map Prod.fst) (pairs.map Prod.snd)
  · have distinct : (pairs.map fun pair => t.position? pair.1).Nodup := by
      simpa [Function.comp_def] using accepted.distinct
    rw [insert_of_accepts h accepted, insert_of_accepts h (accepts_perm same accepted),
      ← List.zip_of_prod rfl rfl, ← List.zip_of_prod rfl rfl, newRow_perm h same distinct]
  · obtain ⟨_, _, refused⟩ := insert_of_not_accepts h accepted
    obtain ⟨_, _, refused'⟩ := insert_of_not_accepts h
      (fun accepted' => accepted (accepts_perm same.symm accepted'))
    rw [refused, refused']

/-- An insertion into any table of a catalog is accepted exactly under the stated condition and then
adds the new row and nothing else. A refusal leaves the table and gives the first fault. The order
in which the columns are listed with their literals makes no difference to the table that is left,
nor to whether the insertion is accepted. -/
theorem insert_exactly (calls : List Catalog.Call) {t : Table}
    (listed : t ∈ (Catalog.empty.after calls).allTables) :
    (∀ names literals,
      let o := t.insert names literals
      (o.answer = .ok () ↔ t.Accepts names literals) ∧
      (o.answer = .ok () →
        o.state.byRows = { t.byRows with rows := t.rows ++ [t.newRow (names.zip literals)] }) ∧
      ∀ e, o.answer = .error e → o.state = t ∧ t.insertFault? names literals = some e) ∧
    ∀ pairs pairs' : List (String × Literal), pairs.Perm pairs' →
      let o := t.insert (pairs.map Prod.fst) (pairs.map Prod.snd)
      let o' := t.insert (pairs'.map Prod.fst) (pairs'.map Prod.snd)
      (o.answer = .ok () ↔ o'.answer = .ok ()) ∧ o.state = o'.state := by
  have h : t.WellFormed := Catalog.wellFormed_of_allTables calls listed
  refine ⟨fun names literals => ⟨answer_insert_eq_ok_iff h, ?_, ?_⟩, ?_⟩
  · intro answered
    have accepted := (answer_insert_eq_ok_iff h).mp answered
    rw [insert_of_accepts h accepted]
    exact byRows_withRow h.sound (admits_newRow h accepted)
  · intro e answered
    have refused : ¬ t.Accepts names literals := by
      rw [← answer_insert_eq_ok_iff h, answered]
      simp
    obtain ⟨first, fault, left⟩ := insert_of_not_accepts h refused
    rw [left] at answered ⊢
    exact ⟨rfl, Except.error.inj answered ▸ fault⟩
  · intro pairs pairs' same
    obtain ⟨accepted, state⟩ := insert_perm h same
    exact ⟨by rw [answer_insert_eq_ok_iff h, answer_insert_eq_ok_iff h, accepted], state⟩

/-- Columns out of order and left out, and an insertion with a fault of every kind. -/
theorem insert_exactly_with_defaults :
    let definitions : List Column.Definition := [⟨"id", .integer, none⟩,
      ⟨"tag", .varchar 3, some (.text "new")⟩, ⟨"note", .varchar 5, some .null⟩]
    let calls : List Catalog.Call :=
      [.createDatabase "shop", .useDatabase "shop", .createTable "items" definitions]
    let t := ofDefinitions "items" definitions
    let pairs : List (String × Literal) := [("note", .string "short"), ("ID", .number 7)]
    let o := t.insert (pairs.map Prod.fst) (pairs.map Prod.snd)
    let refused := t.insert ["tag", "Id", "ID", "gone"] [.string "long", .null, .number 1, .null]
    t ∈ (Catalog.empty.after calls).allTables ∧
      o.answer = .ok () ∧ o.state.rows = [[.integer 7, .text "new", .text "short"]] ∧
      o.state = (t.insert ["ID", "note"] [.number 7, .string "short"]).state ∧
      refused.answer = .error
        (.columnMismatch "items" ["id", "tag", "note"] ["tag", "Id", "ID", "gone"]) ∧
      refused.state = t := by
  intro definitions calls t pairs o refused
  have listed : t ∈ (Catalog.empty.after calls).allTables := by decide +kernel
  obtain ⟨each, orders⟩ := insert_exactly calls listed
  have answered : o.answer = .ok () := by decide +kernel
  have fault : refused.answer = .error
      (.columnMismatch "items" ["id", "tag", "note"] ["tag", "Id", "ID", "gone"]) := by
    decide +kernel
  obtain ⟨_, grown, _⟩ := each (pairs.map Prod.fst) (pairs.map Prod.snd)
  have rows := congrArg RowTable.rows (grown answered)
  have swapped := orders pairs [("ID", .number 7), ("note", .string "short")] (.swap _ _ _)
  exact ⟨listed, answered, rows.trans (by decide +kernel), swapped.2, fault,
    ((each _ _).2.2 _ fault).1⟩

end Table

end ColumnStore
