import ColumnStore.Proofs.Table.Columns
import ColumnStore.Proofs.Table.Partial
import ColumnStore.Table.Addition

/-!
# Definitions that join a table

New definitions are checked one after the other, each in four ways, and the columns are then made
by a conversion, a check of the fill and pushes. What all of this accepts is one condition on the
list, and once it holds nothing is left that could refuse: no row needs to be looked at.
-/

namespace ColumnStore

theorem Column.Definition.fault?_eq_none_iff {d : Definition} :
    d.fault? = none ↔ isValidName d.name = true ∧ d.type.IsValid ∧
      ∀ value, d.default = some value → d.type.Admits value := by
  simp only [fault?, Option.or_eq_none_iff, Option.bind_eq_none_iff, refusal?_check_eq_none_iff,
    checkName_eq_ok_iff, ColumnType.check_eq_ok_iff, check_eq_ok_iff]

namespace Table

variable {t t' : Table} {existing new : List Column.Definition} {d : Column.Definition}

/-- The lists of definitions that are accepted beside existing ones. -/
structure Joinable (existing new : List Column.Definition) : Prop where
  inhabited : new ≠ []
  names : ∀ d ∈ new, isValidName d.name = true
  types : ∀ d ∈ new, d.type.IsValid
  defaults : ∀ d ∈ new, ∀ value, d.default = some value → d.type.Admits value
  distinct : (new.map fun d => Text.fold d.name).Nodup
  fresh : (existing.map fun d => Text.fold d.name).Disjoint (new.map fun d => Text.fold d.name)

/-! ## The first fault -/

theorem refusal?_checkEach_cons (taken : List Column.Definition) (d : Column.Definition)
    (rest : List Column.Definition) :
    refusal? (checkEach taken (d :: rest)) =
      (d.fault?.or (if ∃ other ∈ taken, other.isNamed d.name = true then
        some (.alreadyExists .column d.name) else none)).or
      (refusal? (checkEach (taken ++ [d]) rest)) := by
  have clash : taken.any (·.isNamed d.name) = true ↔ ∃ other ∈ taken, other.isNamed d.name = true :=
    List.any_eq_true
  simp only [checkEach, Column.Definition.fault?, ← clash]
  cases checkName .column d.name with
  | error e => rfl
  | ok _ =>
    cases d.type.check with
    | error e => rfl
    | ok _ =>
      cases d.default with
      | none => cases taken.any (·.isNamed d.name) <;> rfl
      | some value =>
        simp only [Option.bind_some]
        cases d.check value with
        | error e => rfl
        | ok _ => cases taken.any (·.isNamed d.name) <;> rfl

/-- The definitions in `done` were checked already. -/
theorem refusal?_checkEach (existing done rest : List Column.Definition) :
    refusal? (checkEach (existing ++ done) rest) =
      (rest.zipIdx done.length).findSome? (newColumnFaultAt? existing (done ++ rest)) := by
  induction rest generalizing done with
  | nil => rfl
  | cons d rest ih =>
    have later := ih (done ++ [d])
    rw [List.append_assoc, List.singleton_append, List.length_append, ← List.append_assoc] at later
    rw [refusal?_checkEach_cons, later, List.zipIdx_cons, List.findSome?_cons, newColumnFaultAt?,
      List.take_left]
    cases d.fault?.or _ <;> rfl

theorem refusal?_checkNewColumns (existing new : List Column.Definition) (table : String) :
    refusal? (checkNewColumns existing new table) = newColumnsFault? existing new table := by
  rw [checkNewColumns, newColumnsFault?]
  by_cases none : new = []
  · simp [none, refusal?]
  · have first := refusal?_checkEach existing [] new
    simp only [List.append_nil, List.nil_append, List.length_nil] at first
    rw [if_neg none, ← first, if_neg (by simpa using none)]

/-- A clash within the list is charged to the later definition, and after its own faults. -/
example :
    let new : List Column.Definition := [⟨"id", .integer, none⟩, ⟨"tag", .varchar 2, none⟩,
      ⟨"ID", .varchar 0, some (.integer 1)⟩, ⟨"TAG", .varchar 2, some (.text "new")⟩]
    checkNewColumns [] new "items" = .error (.invalidLength 0) ∧
      checkNewColumns [⟨"Tag", .integer, none⟩] new "items" =
        .error (.alreadyExists .column "tag") ∧
      checkNewColumns [] (new.eraseIdx 2) "items" = .error (.valueTooLong "TAG" 2 3) := by
  decide +kernel

/-! ## The condition -/

theorem newColumnFaultAt?_eq_none_iff {i : Nat} :
    newColumnFaultAt? existing new (d, i) = none ↔ d.fault? = none ∧
      Text.fold d.name ∉ (existing.map fun d => Text.fold d.name) ∧
      Text.fold d.name ∉ (new.map fun d => Text.fold d.name).take i := by
  have apart : (¬ ∃ other ∈ existing ++ new.take i, other.isNamed d.name = true) ↔
      Text.fold d.name ∉ (existing.map fun d => Text.fold d.name) ∧
      Text.fold d.name ∉ (new.map fun d => Text.fold d.name).take i := by
    rw [← List.map_take, ← not_or, ← List.mem_append, ← List.map_append]
    simp only [List.mem_map, Column.Definition.isNamed_iff]
  rw [newColumnFaultAt?, Option.or_eq_none_iff, ← apart]
  simp

theorem newColumnsFault?_eq_none_iff {table : String} :
    newColumnsFault? existing new table = none ↔ Joinable existing new := by
  rw [newColumnsFault?]
  by_cases none : new = []
  · rw [if_pos none]
    constructor
    · intro faultless
      cases faultless
    · intro joinable
      exact absurd none joinable.inhabited
  rw [if_neg none, List.findSome?_eq_none_iff]
  constructor
  · intro faultless
    have each (i : Nat) (d : Column.Definition) (entry : new[i]? = some d) :=
      newColumnFaultAt?_eq_none_iff.mp (faultless (d, i) (List.mem_zipIdx_iff_getElem?.mpr entry))
    have fine (d : Column.Definition) (member : d ∈ new) :=
      have ⟨i, entry⟩ := List.getElem?_of_mem member
      Column.Definition.fault?_eq_none_iff.mp (each i d entry).1
    refine ⟨none, fun d member => (fine d member).1, fun d member => (fine d member).2.1,
      fun d member => (fine d member).2.2, ?_, ?_⟩
    · refine nodup_iff_not_mem_take.mpr fun i f entry => ?_
      rw [List.getElem?_map, Option.map_eq_some_iff] at entry
      obtain ⟨d, entry, rfl⟩ := entry
      exact (each i d entry).2.2
    · rw [List.disjoint_right]
      intro f member
      obtain ⟨d, listed, rfl⟩ := List.mem_map.mp member
      obtain ⟨i, entry⟩ := List.getElem?_of_mem listed
      exact (each i d entry).2.1
  · rintro joinable ⟨d, i⟩ member
    have entry := List.mem_zipIdx_iff_getElem?.mp member
    have listed := List.mem_of_getElem? entry
    refine newColumnFaultAt?_eq_none_iff.mpr ⟨?_, ?_, ?_⟩
    · exact Column.Definition.fault?_eq_none_iff.mpr
        ⟨joinable.names d listed, joinable.types d listed, joinable.defaults d listed⟩
    · exact List.disjoint_right.mp joinable.fresh (List.mem_map_of_mem listed)
    · refine nodup_iff_not_mem_take.mp joinable.distinct i _ ?_
      rw [List.getElem?_map, entry, Option.map_some]

theorem checkNewColumns_eq_ok_iff_joinable {table : String} :
    checkNewColumns existing new table = .ok () ↔ Joinable existing new := by
  rw [← refusal?_check_eq_none_iff, refusal?_checkNewColumns, newColumnsFault?_eq_none_iff]

/-! ## The columns that are appended -/

/-- A new column for each definition. Given literals fill the rows and are kept as defaults. -/
def addedColumns (count : Nat) (new : List Column.Definition) : Option (List Literal) → List Column
  | none => new.map fun d => Column.copies d count d.zeroValue
  | some literals => (new.zip literals).map fun (d, literal) => preset count d (d.valueOf literal)

theorem columnWithDefault_eq_ok_iff {count : Nat} {literal : Literal} {c : Column}
    (default : ∀ value, d.default = some value → d.type.Admits value) :
    columnWithDefault count d literal = .ok c ↔
      d.Takes literal ∧ preset count d (d.valueOf literal) = c := by
  rw [columnWithDefault_eq default, map_eq_ok_iff]
  simp only [Column.Definition.convert_eq_ok_iff]
  constructor
  · rintro ⟨value, ⟨taken, rfl⟩, same⟩
    exact ⟨taken, same⟩
  · rintro ⟨taken, same⟩
    exact ⟨_, ⟨taken, rfl⟩, same⟩

/-- An addition is accepted for the definitions and the defaults alone, whatever the rows are. -/
theorem addColumns_eq_ok_iff {defaults : Option (List Literal)} :
    t.addColumns new defaults = .ok t' ↔
      Joinable t.definitions new ∧ Provides new defaults ∧
        t' = { t with columns := t.columns ++ addedColumns t.rowCount new defaults } := by
  rw [addColumns, check_bind_eq_ok_iff, checkNewColumns_eq_ok_iff_joinable]
  refine and_congr_right fun joinable => ?_
  cases defaults with
  | none =>
    simp only [mapM_filled_zero, ok_bind_eq, pure_eq_ok_iff, addedColumns, Provides, true_and]
    exact eq_comm
  | some literals =>
    have each : ∀ pair ∈ new.zip literals, ∀ c, columnWithDefault t.rowCount pair.1 pair.2 = .ok c ↔
        pair.1.Takes pair.2 ∧ preset t.rowCount pair.1 (pair.1.valueOf pair.2) = c := by
      intro pair member c
      exact columnWithDefault_eq_ok_iff (joinable.defaults pair.1 (List.of_mem_zip member).1)
    simp only [guard_eq_ok_iff, not_not, bind_eq_ok_iff, mapM_eq_ok_map_iff each, pure_eq_ok_iff,
      Provides, and_assoc]
    refine and_congr_right fun _ => ?_
    constructor
    · rintro ⟨_, taken, rfl, rfl⟩
      exact ⟨taken, rfl⟩
    · rintro ⟨taken, rfl⟩
      exact ⟨_, taken, rfl, rfl⟩

/-- A call that commits is answered exactly with the table that it makes. -/
theorem done_commit_eq_iff {made : Except Fault Table} :
    Call.perform.done (.commit t made) = ⟨.ok none, t'⟩ ↔ made = .ok t' := by
  cases made <;> simp [Call.perform.done, Outcome.commit, Outcome.map, Except.map]

/-- New definitions are accepted beside those of a table, or beside none, exactly under the stated
condition, and else refused for the first of them at which something is wrong. They are then added
to a table exactly if the given defaults are taken too, whatever its rows are; the columns are
appended and nothing else changes. -/
theorem newColumns_exactly (new : List Column.Definition) :
    (∀ existing table,
      (checkNewColumns existing new table = .ok () ↔ Joinable existing new) ∧
      ∀ e, checkNewColumns existing new table = .error e ↔
        newColumnsFault? existing new table = some e) ∧
    ∀ (t t' : Table) (defaults : Option (List Literal)),
      (Call.addColumns new defaults).perform t = ⟨.ok none, t'⟩ ↔
        (checkNewColumns t.definitions new t.name = .ok () ∧ Provides new defaults) ∧
          t' = { t with columns := t.columns ++ addedColumns t.rowCount new defaults } := by
  refine ⟨fun existing table => ⟨checkNewColumns_eq_ok_iff_joinable, fun e => ?_⟩, ?_⟩
  · rw [← refusal?_checkNewColumns, refusal?_eq_some_iff]
  · intro t t' defaults
    rw [checkNewColumns_eq_ok_iff_joinable, and_assoc, ← addColumns_eq_ok_iff]
    exact done_commit_eq_iff

end Table

end ColumnStore
