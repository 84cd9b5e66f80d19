import ColumnStore.Column.Editing
import ColumnStore.Proofs.Column.Recast
import ColumnStore.Proofs.Table.Readers

/-!
# Columns under direct edits

The storage and the bitmap grow, empty and are rebuilt together, whatever the definition says. So
they keep one length under every run of edits, and the column stays a list of values also while its
declared type does not fit its storage.
-/

namespace ColumnStore.Column

variable {c result : Column} {d target : Definition} {value : Value} {values : List Value}
  {count row : Nat}

/-! ## Pushing in place -/

theorem run_pushSteps (c : Column) (value : Value) :
    (pushSteps value).run.run c =
      match c.definition.check value with
      | .error e => (.error e, c)
      | .ok () => (storeSteps value).run.run c := by
  have checked : (pushSteps value).run.run c =
      (MonadExcept.ofExcept (c.definition.check value) >>= fun _ => storeSteps value).run.run c :=
    rfl
  rw [checked]
  cases c.definition.check value <;> rfl

/-- The storage is written before the bitmap, and neither if the value is not of its kind. -/
theorem run_storeSteps (c : Column) (value : Value) :
    (storeSteps value).run.run c =
      match c.cells.push? value with
      | some cells => (.ok (), { c with cells, nulls := c.nulls.push value.isNull })
      | none => (.error (c.definition.mismatch (.value value.kind)), c) := by
  rcases c with ⟨d, cells, nulls⟩
  cases cells <;> cases value <;> rfl

/-- In place or not, a push gives the same column, and one that is refused writes nothing. -/
theorem pushInPlace_eq (c : Column) (value : Value) :
    c.pushInPlace value = .commit c (c.push value) := by
  rw [pushInPlace, run_pushSteps, push]
  cases c.definition.check value with
  | error e => rfl
  | ok u =>
    rw [run_storeSteps]
    cases c.cells.push? value <;> rfl

/-! ## Equal lengths -/

theorem aligned_clear (c : Column) : c.clear.Aligned := by
  simp [Aligned, clear]

theorem aligned_pushCopies (aligned : c.Aligned) (pushed : c.pushCopies value count = .ok result) :
    result.Aligned ∧ result.values = c.values ++ List.replicate count value := by
  induction count generalizing c with
  | zero =>
    obtain rfl := pure_eq_ok_iff.mp pushed
    exact ⟨aligned, by simp⟩
  | succ count ih =>
    obtain ⟨next, first, rest⟩ := bind_eq_ok_iff.mp pushed
    obtain ⟨kept, grown⟩ := ih (aligned_push aligned first) rest
    refine ⟨kept, ?_⟩
    rw [grown, values_push aligned first, List.append_assoc, List.replicate_succ,
      List.singleton_append]

theorem New.aligned (new : New c values) : c.Aligned ∧ c.values = values := by
  cases new with
  | empty d => exact ⟨aligned_empty d, values_empty d⟩
  | @filled d count value _ made =>
    obtain ⟨_, pushed⟩ := check_bind_eq_ok_iff.mp made
    have filled := aligned_pushCopies (aligned_empty d) pushed
    rwa [values_empty, List.nil_append] at filled

/-- A retyped column is built anew from the values that were cast. -/
theorem aligned_retyped (retyped : c.retyped target = .ok result) :
    result.Aligned ∧ c.values.mapM target.cast = .ok result.values := by
  rw [retyped_eq, bind_eq_ok_iff] at retyped
  obtain ⟨default, casting, rest⟩ := retyped
  obtain ⟨values, casts, built⟩ := bind_eq_ok_iff.mp rest
  have stored := Definition.admits_of_castDefault casting
  have admitted := admits_of_mapM_cast casts
  rw [← pure_eq_ok_iff.mp built, values_ofValues (d := { target with default }) stored admitted]
  exact ⟨(sound_ofValues (d := { target with default }) stored admitted).aligned, casts⟩

/-- One edit either is refused and changes nothing, or changes the list of values as it should. -/
theorem settles_perform (aligned : c.Aligned) (edit : Edit) :
    (edit.perform c).Settles c fun next => next.Aligned ∧ edit.Maps c.values next.values := by
  cases edit with
  | push value =>
    rw [Edit.perform, pushInPlace_eq]
    exact Outcome.settles_commit fun _ pushed =>
      ⟨aligned_push aligned pushed, values_push aligned pushed⟩
  | clear => exact Outcome.settles_ok _ ⟨aligned_clear c, by simp [Edit.Maps, clear, values]⟩
  | retype target => exact Outcome.settles_commit fun _ => aligned_retyped
  | setType type => exact Outcome.settles_ok _ ⟨aligned, rfl⟩
  | setDefault default => exact Outcome.settles_ok _ ⟨aligned, rfl⟩

theorem aligned_edited (aligned : c.Aligned) (edits : List Edit) : (c.edited edits).Aligned := by
  induction edits generalizing c with
  | nil => exact aligned
  | cons edit rest ih =>
    have settled := (settles_perform aligned edit).imp fun _ next => next.1
    exact ih (settled.keeps aligned)

/-! ## Reading -/

theorem get?_eq_none_iff (aligned : c.Aligned) : c.get? row = none ↔ c.size ≤ row := by
  rw [get?_eq, List.getElem?_eq_none_iff, length_values aligned]

theorem map_get?_range (aligned : c.Aligned) :
    (List.range c.size).map c.get? = c.values.map some := by
  refine List.ext_getElem (by simp [length_values aligned]) fun row _ inside => ?_
  have within : row < c.values.length := by simpa using inside
  simp [get?_eq, within]

/-- A value that is stored is not NULL, so NULL is read where the bitmap says so. -/
theorem get?_eq_null_iff (aligned : c.Aligned) :
    c.get? row = some .null ↔ c.nulls[row]? = some true := by
  constructor
  · intro read
    exact (holds_of_get? read).2.mp rfl
  · intro marked
    obtain ⟨inside, _⟩ := Array.getElem?_eq_some_iff.mp marked
    have present : row < c.cells.toList.length := by
      rw [Cells.length_toList, ← aligned]
      exact inside
    rw [get?, marked, Cells.get?_eq, List.getElem?_eq_getElem present]
    rfl

/-- A placeholder may be any value of the storage. -/
theorem get?_congr_cells {cells : Cells} (aligned : c.Aligned) (same : cells.size = c.cells.size)
    (agrees : ∀ row, c.nulls[row]? = some false → cells.get? row = c.cells.get? row) (row : Nat) :
    ({ c with cells } : Column).get? row = c.get? row := by
  cases marked : c.nulls[row]? with
  | none => simp only [get?, marked]
  | some isNull =>
    cases isNull with
    | false => simp only [get?, agrees row marked]
    | true =>
      have other : ({ c with cells } : Column).Aligned := aligned.trans same.symm
      rw [(get?_eq_null_iff aligned).mpr marked, (get?_eq_null_iff other).mpr marked]

theorem readsAsList (aligned : c.Aligned) : c.ReadsAsList where
  aligned := aligned
  listed := map_get?_range aligned
  outside _ := get?_eq_none_iff aligned
  marked _ := get?_eq_null_iff aligned
  unread _ := get?_congr_cells aligned

/-! ## Every column that edits lead to -/

/-- A new type is accepted exactly if the default and every value cast to it. -/
theorem answer_retype_eq_ok_iff :
    ((Edit.retype target).perform c).answer = .ok () ↔
      ∀ value ∈ c.contents, ∃ result, target.cast value = .ok result := by
  have accepted : ((Edit.retype target).perform c).answer = .ok () ↔
      refusal? (c.retyped target) = none := by
    rw [Edit.perform]
    cases c.retyped target <;> simp [Outcome.commit, refusal?]
  rw [accepted, refusal?_retyped, List.findSome?_eq_none_iff]
  exact forall₂_congr fun value _ => refusal?_eq_none_iff

/-- Whatever has been asked of a new column, assignments of its type and its default among it, it is
read as a list of values. A column that is made holds its fill in every row, an edit that is refused
changes nothing, one that is accepted changes the list as it says, and a new type is accepted
exactly if the default and each of the values can be cast to it. -/
theorem edited_readsAsList {c : Column} {values : List Value} (new : New c values)
    (edits : List Edit) :
    c.values = values ∧ (c.edited edits).ReadsAsList ∧
      (∀ edit : Edit, (edit.perform (c.edited edits)).Settles (c.edited edits) fun next =>
        edit.Maps (c.edited edits).values next.values) ∧
      ∀ target : Definition, ((Edit.retype target).perform (c.edited edits)).answer = .ok () ↔
        ∀ value ∈ (c.edited edits).contents, ∃ result, target.cast value = .ok result := by
  obtain ⟨start, made⟩ := new.aligned
  have aligned := aligned_edited start edits
  refine ⟨made, readsAsList aligned, fun edit => ?_, fun _ => answer_retype_eq_ok_iff⟩
  exact (settles_perform aligned edit).imp fun _ next => next.2

/-- Texts under the type of integers: an integer is refused by the storage, NULL is taken, and the
column can be retyped to what it says. -/
theorem edited_readsAsList_other_storage :
    let d : Definition := ⟨"code", .varchar 3, none⟩
    let c : Column := ⟨d, .texts #["12", "12"], #[false, false]⟩
    let mistyped := c.edited [.setType .integer, .push (.integer 5), .push .null,
      .setDefault (some (.text "9"))]
    let push := (Edit.push (.integer 5)).perform mistyped
    let retype := (Edit.retype ⟨"key", .integer, none⟩).perform mistyped
    New c [.text "12", .text "12"] ∧ mistyped.ReadsAsList ∧
      mistyped.cells = .texts #["12", "12", ""] ∧
      mistyped.values = [.text "12", .text "12", .null] ∧
      push.answer = .error (.typeMismatch "code" .integer (.value .integer)) ∧
      push.state = mistyped ∧ retype.answer = .ok () ∧
      retype.state.values = [.integer 12, .integer 12, .null] := by
  intro d c mistyped push retype
  have new : New c [.text "12", .text "12"] :=
    .filled (show filled d 2 (.text "12") = .ok c by decide +kernel)
  obtain ⟨_, reads, each, accepts⟩ := edited_readsAsList new
    [.setType .integer, .push (.integer 5), .push .null, .setDefault (some (.text "9"))]
  have values : mistyped.values = [.text "12", .text "12", .null] := by decide +kernel
  have refused : push.answer = .error (.typeMismatch "code" .integer (.value .integer)) := by
    decide +kernel
  have casts : mistyped.contents.mapM (Definition.cast ⟨"key", .integer, none⟩) =
      .ok [.integer 9, .integer 12, .integer 12, .null] := by decide +kernel
  have answered : retype.answer = .ok () := (accepts _).mpr fun value member => by
    obtain ⟨result, _, cast⟩ := exists_right_of_forall₂ (mapM_eq_ok_iff.mp casts) member
    exact ⟨result, cast⟩
  have maps := (each (.retype ⟨"key", .integer, none⟩)).answered () answered
  refine ⟨new, reads, by decide +kernel, values, refused, (each _).refused _ refused, answered, ?_⟩
  exact Except.ok.inj (maps.symm.trans (by decide +kernel))

end ColumnStore.Column
