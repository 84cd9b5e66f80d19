import Mathlib.Data.List.Sort
import ColumnStore.Proofs.Indexed.Table

/-!
# Changes of columns stay inside their lists

The operations by position that change the columns of a table, against the ones without positions.
A loop over a list with its positions is the recursion over the list; what it reads of the part
before a position is what the recursion has seen.
-/

namespace ColumnStore

open Indexed

variable {α β γ : Type}

namespace Indexed

theorem before_append (done rest : List α) :
    before (done ++ rest) done.length = pure done := by
  rw [before, if_pos (by simp), List.take_left, access_some]

/-- A list read beside another one of the same length. -/
theorem mapM_zipIdx_access {xs : List α} {ys zs : List β} {k : Nat} (f : α → β → Indexed γ)
    (ahead : zs.drop k = ys) (full : ys.length = xs.length) :
    ((xs.zipIdx k).mapM fun (a, i) => access zs[i]? >>= f a) =
      (xs.zip ys).mapM fun (a, b) => f a b := by
  induction xs generalizing ys k with
  | nil => rfl
  | cons a xs ih =>
    obtain ⟨b, ys, rfl⟩ := List.exists_cons_of_length_eq_add_one full
    have here : zs[k]? = some b := by rw [← List.head?_drop, ahead, List.head?_cons]
    have behind : zs.drop (k + 1) = ys := by rw [← List.tail_drop, ahead, List.tail_cons]
    rw [List.zipIdx_cons, List.mapM_cons, List.zip_cons_cons, List.mapM_cons]
    simp only [here, access_some, pure_bind, ih behind (Nat.succ.inj full)]

end Indexed

namespace Table

open RowTable (without)

variable {t : Table}

/-! ## New columns -/

/-- What is checked of one new definition. -/
def checkNewColumn (taken : List Column.Definition) (d : Column.Definition) : Except Fault Unit := do
  checkName .column d.name
  d.type.check
  if let some value := d.default then d.check value
  if taken.any (·.isNamed d.name) then throw (.alreadyExists .column d.name)

theorem checkEach_cons (taken rest : List Column.Definition) (d : Column.Definition) :
    checkEach taken (d :: rest) =
      checkNewColumn taken d >>= fun _ => checkEach (taken ++ [d]) rest := by
  rw [checkEach, checkNewColumn]
  simp only [bind_assoc]
  refine bind_congr_ok fun _ _ => bind_congr_ok fun _ _ => ?_
  cases d.default with
  | none => cases taken.any (·.isNamed d.name) <;> rfl
  | some value =>
    simp only [bind_assoc]
    refine bind_congr_ok fun _ _ => ?_
    cases taken.any (·.isNamed d.name) <;> rfl

theorem checkNewColumnAt_eq (existing done rest : List Column.Definition) (d : Column.Definition) :
    checkNewColumnAt existing (done ++ rest) d done.length =
      lift (checkNewColumn (existing ++ done) d) := by
  refine lift_bind_congr fun _ _ => lift_bind_congr fun _ _ => ?_
  simp only [before_append, pure_bind, List.any_append]
  cases d.default with
  | none => cases existing.any (·.isNamed d.name) || done.any (·.isNamed d.name) <;> rfl
  | some value =>
    refine lift_bind_congr fun _ _ => ?_
    cases existing.any (·.isNamed d.name) || done.any (·.isNamed d.name) <;> rfl

theorem forM_checkNewColumnAt (existing done rest : List Column.Definition) :
    ((rest.zipIdx done.length).forM fun (d, i) => checkNewColumnAt existing (done ++ rest) d i) =
      lift (checkEach (existing ++ done) rest) := by
  induction rest generalizing done with
  | nil => rfl
  | cons d rest ih =>
    have later := ih (done ++ [d])
    rw [List.append_assoc, List.singleton_append, List.length_append, ← List.append_assoc] at later
    rw [List.zipIdx_cons, List.forM, checkEach_cons]
    simp only [checkNewColumnAt_eq]
    exact lift_bind_congr fun _ _ => later

theorem checkNewColumnsAt_eq (existing new : List Column.Definition) (table : String) :
    checkNewColumnsAt existing new table = lift (checkNewColumns existing new table) := by
  have each := forM_checkNewColumnAt existing [] new
  rw [checkNewColumnsAt, checkNewColumns]
  cases new.isEmpty with
  | true => rfl
  | false =>
    simp only [List.nil_append, List.append_nil, List.length_nil] at each
    exact each

theorem addColumnsAt_eq (t : Table) (new : List Column.Definition)
    (defaults : Option (List Literal)) :
    t.addColumnsAt new defaults = lift (t.addColumns new defaults) := by
  rw [addColumnsAt, addColumns, checkNewColumnsAt_eq]
  refine lift_bind_congr fun _ _ => ?_
  cases defaults with
  | none =>
    have added : (new.zipIdx.mapM fun (d, _) => lift (Column.filled d t.rowCount d.zeroValue)) =
        lift (new.mapM fun d => Column.filled d t.rowCount d.zeroValue) := by
      conv_rhs => rw [← List.zipIdx_map_fst 0 new, List.mapM_map]
      exact mapM_lift fun _ _ => rfl
    simp only [added]
    exact lift_bind_congr fun _ _ => rfl
  | some literals =>
    by_cases full : literals.length = new.length
    · have added := mapM_zipIdx_access (k := 0)
        (fun d literal => lift (columnWithDefault t.rowCount d literal)) rfl full
      simp only [full, ne_eq, not_true_eq_false, if_false]
      simp only [added, List.drop_zero]
      rw [mapM_lift fun _ _ => rfl]
      exact lift_bind_congr fun _ _ => rfl
    · simp only [full, ne_eq, not_false_eq_true, if_true]
      rfl

/-! ## Columns removed -/

/-- Positions in ascending order come out of the removal of repetitions in strictly ascending order
and none of them is lost. -/
theorem destutter'_ascending {a : Nat} {positions : List Nat}
    (ascending : (a :: positions).Pairwise (· ≤ ·)) :
    (positions.destutter' (· ≠ ·) a).Pairwise (· < ·) ∧
      ∀ i, i ∈ positions.destutter' (· ≠ ·) a ↔ i ∈ a :: positions := by
  induction positions generalizing a with
  | nil => simp
  | cons b rest ih =>
    obtain ⟨above, tail⟩ := List.pairwise_cons.mp ascending
    by_cases same : a = b
    · subst same
      obtain ⟨strict, members⟩ := ih tail
      rw [List.destutter'_cons_neg _ (by simp)]
      exact ⟨strict, fun i => by simp [members]⟩
    · obtain ⟨strict, members⟩ := ih tail
      rw [List.destutter'_cons_pos _ same]
      refine ⟨List.pairwise_cons.mpr ⟨fun i member => ?_, strict⟩, fun i => by simp [members]⟩
      have first : a < b := lt_of_le_of_ne (above b (by simp)) same
      rcases List.mem_cons.mp ((members i).mp member) with rfl | later
      · exact first
      · exact first.trans_le ((List.pairwise_cons.mp tail).1 i later)

/-- Each of the positions once and in ascending order. -/
theorem destutter_mergeSort (positions : List Nat) :
    (positions.mergeSort.destutter (· ≠ ·)).Pairwise (· < ·) ∧
      ∀ i, i ∈ positions.mergeSort.destutter (· ≠ ·) ↔ i ∈ positions := by
  have sorted : positions.mergeSort.Pairwise (· ≤ ·) := by
    simpa using List.pairwise_mergeSort' (· ≤ ·) positions
  have members (i : Nat) : i ∈ positions.mergeSort ↔ i ∈ positions := List.mem_mergeSort
  cases ordered : positions.mergeSort with
  | nil => simp [← members, ordered]
  | cons a rest =>
    rw [ordered] at sorted
    obtain ⟨strict, same⟩ := destutter'_ascending sorted
    exact ⟨strict, fun i => (same i).trans (by rw [← members, ordered])⟩

/-- Positions behind the doomed ones stay. -/
theorem filter_zipIdx_of_lt {doomed : List Nat} {k : Nat} (below : ∀ i ∈ doomed, i < k)
    (xs : List α) :
    ((xs.zipIdx k).filter fun (_, i) => !doomed.contains i).map (·.1) = xs := by
  rw [List.filter_eq_self.mpr, List.zipIdx_map_fst]
  rintro ⟨a, i⟩ member
  have behind := (List.mem_zipIdx member).1
  have spared : i ∉ doomed := fun listed => absurd (below i listed) (by omega)
  simpa using spared

/-- Without the highest position the lower ones are where they were. -/
theorem without_eraseIdx {doomed : List Nat} {last : Nat} {xs : List α}
    (below : ∀ i ∈ doomed, i < last) (inside : last < xs.length) :
    without doomed (xs.eraseIdx last) = without (doomed ++ [last]) xs := by
  have width : (xs.take last).length = last := by
    rw [List.length_take]
    omega
  have front : ((xs.take last).zipIdx.filter fun (_, i) => !doomed.contains i) =
      (xs.take last).zipIdx.filter fun (_, i) => !(doomed ++ [last]).contains i := by
    refine List.filter_congr ?_
    rintro ⟨a, i⟩ member
    have before := (List.mem_zipIdx member).2.1
    have apart : i ≠ last := by omega
    simp [apart]
  have back : ∀ i ∈ doomed ++ [last], i < last + 1 := by
    intro i member
    rcases List.mem_append.mp member with listed | here
    · exact (below i listed).trans (Nat.lt_succ_self last)
    · obtain rfl : i = last := List.mem_singleton.mp here
      exact Nat.lt_succ_self i
  -- Cut at `last`: both sides keep the same of the front, and all of what is behind it.
  have split : xs = xs.take last ++ xs[last] :: xs.drop (last + 1) := by simp
  have shorter : without doomed (xs.eraseIdx last) =
      ((xs.take last).zipIdx.filter fun (_, i) => !doomed.contains i).map (·.1) ++
        xs.drop (last + 1) := by
    rw [without, List.eraseIdx_eq_take_drop_succ, List.zipIdx_append, List.filter_append,
      List.map_append, width, Nat.zero_add, filter_zipIdx_of_lt below]
  have both : without (doomed ++ [last]) xs =
      ((xs.take last).zipIdx.filter fun (_, i) => !(doomed ++ [last]).contains i).map (·.1) ++
        xs.drop (last + 1) := by
    conv_lhs => rw [split]
    rw [without, List.zipIdx_append, List.filter_append, List.map_append, width, Nat.zero_add,
      List.zipIdx_cons, List.filter_cons_of_neg (by simp), filter_zipIdx_of_lt back]
  rw [shorter, both, front]

theorem foldlM_remove {doomed : List Nat} {xs : List α} (ascending : doomed.Pairwise (· < ·))
    (inside : ∀ i ∈ doomed, i < xs.length) :
    doomed.reverse.foldlM Indexed.remove xs = pure (without doomed xs) := by
  induction doomed using List.reverseRecOn generalizing xs with
  | nil => simp [without]
  | append_singleton doomed last ih =>
    obtain ⟨rest, _, below⟩ := List.pairwise_append.mp ascending
    have lower : ∀ i ∈ doomed, i < last := fun i member => below i member last (by simp)
    have here : last < xs.length := inside last (by simp)
    have shorter : ∀ i ∈ doomed, i < (xs.eraseIdx last).length := by
      intro i member
      have := lower i member
      rw [List.length_eraseIdx_of_lt here]
      omega
    rw [List.reverse_append, List.reverse_singleton, List.singleton_append, List.foldlM_cons,
      Indexed.remove, List.getElem?_eq_getElem here, access_some, pure_bind, pure_bind,
      ih rest shorter, without_eraseIdx lower here]

/-- Nothing is left when every position is doomed. -/
theorem isEmpty_without {doomed : List Nat} {xs : List α} (ascending : doomed.Pairwise (· < ·))
    (inside : ∀ i ∈ doomed, i < xs.length) :
    (without doomed xs).isEmpty = true ↔ doomed.length = xs.length := by
  have distinct : doomed.Nodup := ascending.imp Nat.ne_of_lt
  have within : doomed.Subperm (List.range xs.length) :=
    List.subperm_of_subset distinct fun i member => List.mem_range.mpr (inside i member)
  have empty : (without doomed xs).isEmpty = true ↔ ∀ i, i < xs.length → i ∈ doomed := by
    rw [without, List.isEmpty_map, List.isEmpty_iff, List.filter_eq_nil_iff]
    constructor
    · intro none i bound
      have entry : (xs[i], i) ∈ xs.zipIdx := by simp [List.mem_zipIdx_iff_getElem?, bound]
      simpa using none _ entry
    · rintro full ⟨a, i⟩ member
      have bound := (List.mem_zipIdx member).2.1
      simpa using full i (by omega)
  rw [empty]
  constructor
  · intro full
    have covering : (List.range xs.length).Subperm doomed :=
      List.subperm_of_subset List.nodup_range fun i member => full i (List.mem_range.mp member)
    exact le_antisymm (by simpa using within.length_le) (by simpa using covering.length_le)
  · intro count i bound
    have same : doomed.Perm (List.range xs.length) := within.perm_of_length_le (by simp [count])
    exact same.mem_iff.mpr (List.mem_range.mpr bound)

theorem removeColumnsAt_eq (t : Table) (names : List String) :
    t.removeColumnsAt names = lift (t.removeColumns names) := by
  refine lift_bind_congr fun positions located => ?_
  obtain ⟨ascending, members⟩ := destutter_mergeSort positions
  generalize positions.mergeSort.destutter (· ≠ ·) = doomed at ascending members
  have inside : ∀ i ∈ doomed, i < t.columns.length := by
    intro i member
    exact lt_of_positions located i ((members i).mp member)
  have same : without doomed t.columns = without positions t.columns := by
    have contained : doomed.contains = positions.contains := by
      funext i
      rw [Bool.eq_iff_iff, List.contains_iff_mem, List.contains_iff_mem, members]
    rw [without, without, contained]
  have none := isEmpty_without ascending inside
  have removed := foldlM_remove ascending inside
  rw [same] at none removed
  simp only [removed, pure_bind, ← none]
  rw [without]
  split <;> rfl

/-! ## New types -/

/-- A list is searched for each of its elements in the part before it. -/
theorem forM_repeated (e : Fault) {done : List Nat} (distinct : done.Nodup) (rest : List Nat) :
    ((rest.zipIdx done.length).forM fun (target, i) => do
      if (← before (done ++ rest) i).contains target then throw e) =
      lift (if (done ++ rest).Nodup then .ok () else .error e) := by
  -- `done` is the part before the positions still to come, and has no repetition so far.
  induction rest generalizing done with
  | nil =>
    rw [List.append_nil, if_pos distinct]
    rfl
  | cons target rest ih =>
    rw [List.zipIdx_cons, List.forM]
    simp only [before_append, pure_bind]
    by_cases repeated : target ∈ done
    · have twice : ¬ (done ++ target :: rest).Nodup := by
        intro distinct
        exact (List.disjoint_of_nodup_append distinct) repeated List.mem_cons_self
      simp only [List.contains_iff_mem.mpr repeated, if_true, if_neg twice]
      rfl
    · have fresh : (done ++ [target]).Nodup := by
        simpa using (List.nodup_concat done target).mpr ⟨repeated, distinct⟩
      have later := ih fresh
      rw [List.append_assoc, List.singleton_append, List.length_append] at later
      have unseen : done.contains target = false := by simpa using repeated
      simp only [unseen, Bool.false_eq_true, if_false, pure_bind]
      exact later

theorem mapM_modifiedColumn (sound : t.Sound) {definitions : List Column.Definition}
    {targets : List Nat} (located : definitions.mapM (fun d => t.position d.name) = .ok targets) :
    ((targets.zip definitions).mapM fun (i, d) => do
      lift d.type.check
      let current ← access t.columns[i]?
      return (i, ← current.retypedAt ⟨current.definition.name, d.type, none⟩)) =
      lift ((definitions.mapM t.modifiedColumn).map targets.zip) := by
  induction definitions generalizing targets with
  | nil =>
    cases located
    rfl
  | cons d rest ih =>
    obtain ⟨i, later, found, remaining, rfl⟩ := mapM_cons_eq_ok_iff.mp located
    obtain ⟨c, entry, column⟩ := getElem?_of_position found
    have aligned := (sound c (List.mem_of_getElem? entry)).aligned
    rw [List.zip_cons_cons, List.mapM_cons, List.mapM_cons, ih remaining, modifiedColumn, column]
    simp only [entry, access_some, pure_bind, Column.retypedAt_eq aligned]
    cases d.type.check with
    | error e => rfl
    | ok _ =>
      rw [ok_bind_eq, ok_bind_eq]
      cases c.retyped ⟨c.definition.name, d.type, none⟩ with
      | error e => rfl
      | ok new => cases rest.mapM t.modifiedColumn <;> rfl

theorem modifyColumnsAt_eq (sound : t.Sound) (definitions : List Column.Definition) :
    t.modifyColumnsAt definitions = lift (t.modifyColumns definitions) := by
  refine lift_bind_congr fun targets located => ?_
  have searched := forM_repeated
    (.columnMismatch t.name t.columnNames (definitions.map (·.name))) List.nodup_nil targets
  rw [List.nil_append, List.length_nil] at searched
  rw [searched]
  have within := lt_of_positions located
  rw [List.mapM_map] at located
  by_cases distinct : targets.Nodup
  · simp only [distinct, if_true, not_true_eq_false, if_false, mapM_modifiedColumn sound located]
    cases definitions.mapM t.modifiedColumn with
    | error e => rfl
    | ok columns =>
      have inside : ∀ pair ∈ targets.zip columns, pair.1 < t.columns.length := by
        intro pair member
        exact within _ (List.of_mem_zip member).1
      have written := foldlM_modify inside
      simp only [lift_ok, pure_bind, map_ok_eq, ok_bind_eq, written]
      rfl
  · simp only [distinct, if_false, not_false_eq_true, if_true]
    rfl

/-! ## Columns renamed and redefined -/

theorem renameColumnAt_eq (t : Table) (old new : String) :
    t.renameColumnAt old new = lift (t.renameColumn old new) := by
  refine lift_bind_congr fun i found => lift_bind_congr fun _ _ => ?_
  obtain ⟨c, entry, _⟩ := getElem?_of_position found
  cases (t.position? new).any (· != i) with
  | true => rfl
  | false =>
    simp only [modify_eq entry]
    rfl

theorem withDefaultAt_eq {i : Nat} {c : Column} (entry : t.columns[i]? = some c)
    (default : Option Value) : t.withDefaultAt i default = pure (t.withDefault i default) := by
  rw [withDefaultAt, modify_eq entry]
  rfl

theorem setDefaultAt_eq (t : Table) (name : String) (literal : Literal) :
    t.setDefaultAt name literal = lift (t.setDefault name literal) := by
  refine lift_bind_congr fun i found => ?_
  obtain ⟨c, entry, column⟩ := getElem?_of_position found
  simp only [entry, column, access_some, pure_bind, ok_bind_eq]
  split
  · rfl
  · refine lift_bind_congr fun value _ => ?_
    exact withDefaultAt_eq entry (some value)

theorem dropDefaultAt_eq (t : Table) (name : String) :
    t.dropDefaultAt name = lift (t.dropDefault name) := by
  refine lift_bind_congr fun i found => ?_
  obtain ⟨c, entry, column⟩ := getElem?_of_position found
  rw [entry, column, access_some, pure_bind, ok_bind_eq, withDefaultAt_eq entry none]
  split <;> rfl

end Table

end ColumnStore
