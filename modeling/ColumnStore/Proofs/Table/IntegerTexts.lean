import Mathlib.Data.Nat.Digits.Defs
import ColumnStore.Proofs.Table.Canonical

/-!
# Integers as texts

An integer column takes a text type when its decimal texts are short enough. On the way back only a
run of digits is read, so what came from a negative integer stays a text.
-/

namespace ColumnStore

/-- Nineteen digits and a sign are enough for any integer. -/
theorem Decimal.length_render_le (n : Int64) : (render n).length ≤ 20 := by
  have low := n.le_toInt
  have high := n.toInt_lt
  have digits : (digits n.toInt.natAbs).length ≤ 19 :=
    Nat.toDigits_length 10 _ 19 (by decide) (by omega)
  rw [render, String.length_ofList]
  split
  · rw [List.length_cons]
    omega
  · omega

/-- A partial function that has values throughout is there the one that gives them. -/
theorem map_eq_of_map_eq_some {α β : Type} {f : α → Option β} {g : α → β} {as : List α}
    {bs : List β} (h : as.map f = bs.map some) (each : ∀ a ∈ as, ∀ b, f a = some b → b = g a) :
    bs = as.map g := by
  induction as generalizing bs with
  | nil => exact List.map_eq_nil_iff.mp h.symm
  | cons a as ih =>
    cases bs with
    | nil => cases h
    | cons b bs =>
      obtain ⟨first, rest⟩ := List.cons.inj h
      rw [List.map_cons, ← each a (by simp) b first,
        ← ih rest fun a later => each a (List.mem_cons_of_mem _ later)]

/-- An integer as its decimal text, and any other value as it is. -/
def Value.written : Value → Value
  | integer m => text (Decimal.render m)
  | kept => kept

namespace ColumnType

variable {n : UInt32} {value result : Value}

theorem isSome_recast?_varchar (admitted : integer.Admits value) :
    ((varchar n).recast? value).isSome = true ↔
      ∀ m, value.integer? = some m → (Decimal.render m).length ≤ n.toNat := by
  cases value with
  | null => simp [recast?, Value.integer?]
  | integer m => simp [recast?, fitted?, Value.integer?]
  | text s => exact admitted.elim

theorem eq_written_of_recast? (admitted : integer.Admits value)
    (h : (varchar n).recast? value = some result) : result = value.written := by
  cases value with
  | null => exact (Option.some.inj h).symm
  | integer m => exact (Option.some.inj (Option.ite_none_right_eq_some.mp h).2).symm
  | text s => exact admitted.elim

theorem recast?_written (admitted : integer.Admits value)
    (nonneg : ∀ m, value.integer? = some m → 0 ≤ m) :
    integer.recast? value.written = some value := by
  cases value with
  | null => rfl
  | integer m =>
    have sign : ¬ m < 0 := Int64.not_lt.mpr (nonneg m rfl)
    rw [Value.written, recast?, Decimal.readPlainInt64?_render, if_neg sign]
    rfl
  | text s => exact admitted.elim

end ColumnType

/-- A decimal text is refused as an integer when it has a minus sign. -/
theorem Column.Definition.refusal?_cast_written (target : Definition) {value : Value}
    (kind : target.type = .integer) (admitted : ColumnType.integer.Admits value) :
    refusal? (target.cast value.written) = value.integer?.bind fun m =>
      if m < 0 then some (target.mismatch (.unreadable (Decimal.render m))) else none := by
  cases value with
  | null => rfl
  | integer m =>
    by_cases negative : m < 0
    · simp only [cast, Value.written, kind, Decimal.readPlainInt64?_render, if_pos negative,
        Value.integer?, Option.bind_some]
      rfl
    · simp only [cast, Value.written, kind, Decimal.readPlainInt64?_render, if_neg negative,
        Value.integer?, Option.bind_some, ok_bind_eq, check]
      rfl
  | text s => exact admitted.elim

namespace Column

variable {c new : Column} {n : UInt32} {count : Nat}

theorem Sound.admits_contents (sound : c.Sound count) :
    ∀ value ∈ c.contents, c.definition.type.Admits value := by
  intro value member
  rcases List.mem_append.mp member with stored | listed
  · exact sound.default value (Option.mem_toList.mp stored)
  · exact sound.admitted value listed

/-- An integer column as a text column holds the decimal texts. -/
theorem Recast.written (recast : c.Recast (.varchar n) new) (sound : c.Sound count)
    (kind : c.definition.type = .integer) :
    new.definition.default = c.definition.default.map Value.written ∧
      new.values = c.values.map Value.written := by
  have back (value : Value) (admitted : c.definition.type.Admits value) (result : Value) :
      (ColumnType.varchar n).recast? value = some result → result = value.written :=
    ColumnType.eq_written_of_recast? (kind ▸ admitted)
  refine ⟨?_, map_eq_of_map_eq_some recast.values fun value member =>
    back value (sound.admitted value member)⟩
  have recasts := recast.default
  cases stored : c.definition.default with
  | none => simpa [stored, eq_comm] using recasts
  | some value =>
    rw [stored, Option.map_some, eq_comm, Option.map_eq_some_iff] at recasts
    obtain ⟨result, written, same⟩ := recasts
    rw [written, back value (sound.default value stored) result same.symm, Option.map_some]

theorem Recast.contents_written (recast : c.Recast (.varchar n) new) (sound : c.Sound count)
    (kind : c.definition.type = .integer) : new.contents = c.contents.map Value.written := by
  obtain ⟨default, values⟩ := recast.written sound kind
  rw [contents, default, values, contents, List.map_append, Option.toList_map]

/-- Without negative integers the way back gives the column again. -/
theorem Recast.back (recast : c.Recast (.varchar n) new) (sound : c.Sound count)
    (kind : c.definition.type = .integer) (nonneg : ∀ m ∈ c.integers, 0 ≤ m) :
    new.Recast .integer c := by
  obtain ⟨default, values⟩ := recast.written sound kind
  have back (value : Value) (member : value ∈ c.contents) :
      ColumnType.integer.recast? value.written = some value :=
    ColumnType.recast?_written (kind ▸ sound.admits_contents value member) fun m same =>
      nonneg m (List.mem_filterMap.mpr ⟨value, member, same⟩)
  refine ⟨recast.name.symm, kind, ?_, ?_⟩
  · rw [default, Option.map_map]
    refine Option.map_congr fun value stored => back value ?_
    exact List.mem_append_left _ (Option.mem_toList.mpr stored)
  · rw [values, List.map_map]
    exact List.map_congr_left fun value member => back value (List.mem_append_right _ member)

theorem find?_negative_eq_none_iff :
    c.integers.find? (· < 0) = none ↔ ∀ m ∈ c.integers, 0 ≤ m := by
  simp [List.find?_eq_none, Int64.not_lt]

/-- The first negative integer is what the way back is refused for. -/
theorem Recast.refusal?_back (recast : c.Recast (.varchar n) new) (sound : c.Sound count)
    (kind : c.definition.type = .integer) :
    refusal? (new.retyped ⟨new.definition.name, .integer, none⟩) =
      (c.integers.find? (· < 0)).map fun m =>
        .typeMismatch c.definition.name .integer (.unreadable (Decimal.render m)) := by
  have each (value : Value) (member : value ∈ c.contents) :=
    Definition.refusal?_cast_written ⟨c.definition.name, .integer, none⟩ rfl
      (kind ▸ sound.admits_contents value member)
  rw [refusal?_retyped, recast.contents_written sound kind, List.findSome?_map, recast.name]
  refine (findSome?_congr_mem each).trans ?_
  rw [← List.head?_filterMap, ← List.filterMap_filterMap, List.head?_filterMap]
  have first := findSome?_ite_some (fun m : Int64 => decide (m < 0))
    (fun m => Fault.typeMismatch c.definition.name .integer (.unreadable (Decimal.render m)))
    c.integers
  simp only [decide_eq_true_eq] at first
  exact first

/-- The decimal texts have to be short enough, and nothing else is asked. -/
theorem Sound.exists_retyped_varchar_iff (sound : c.Sound count)
    (kind : c.definition.type = .integer) :
    (∃ new, c.retyped ⟨c.definition.name, .varchar n, none⟩ = .ok new) ↔
      ∀ m ∈ c.integers, (Decimal.render m).length ≤ n.toNat := by
  rw [← refusal?_eq_none_iff, refusal?_retyped, List.findSome?_eq_none_iff]
  simp only [Definition.refusal?_cast_eq_none_iff, integers, List.mem_filterMap]
  constructor
  · rintro fits m ⟨value, member, same⟩
    have admitted := kind ▸ sound.admits_contents value member
    exact (ColumnType.isSome_recast?_varchar admitted).mp (fits value member) m same
  · intro short value member
    have admitted := kind ▸ sound.admits_contents value member
    exact (ColumnType.isSome_recast?_varchar admitted).mpr fun m same =>
      short m ⟨value, member, same⟩

end Column

namespace Table

variable {t : Table} {c : Column} {i : Nat}

theorem modifyColumns_single_of_valid {d : Column.Definition}
    (position : t.position? d.name = some i) (entry : t.columns[i]? = some c)
    (valid : d.type.IsValid) :
    t.modifyColumns [d] = (c.retyped ⟨c.definition.name, d.type, none⟩).map fun new =>
      { t with columns := t.columns.set i new } := by
  have found : t.column? d.name = some c := by
    rw [column?_eq, position, Option.bind_some, entry]
  rw [modifyColumns_single, position_eq_ok_iff.mpr position, ok_bind_eq, modifiedColumn_eq found,
    ColumnType.check_eq_ok_iff.mpr valid, ok_bind_eq]

/-- The way back gives the table again, unless an integer is negative. -/
theorem modifyColumns_back {new : Column} {n : UInt32} {name : String} {count : Nat}
    (position : t.position? name = some i) (entry : t.columns[i]? = some c)
    (sound : c.Sound count) (canonical : c.Canonical) (kind : c.definition.type = .integer)
    (recast : c.Recast (.varchar n) new) (default : Option Value) :
    ({ t with columns := t.columns.set i new } : Table).modifyColumns [⟨name, .integer, default⟩] =
      match c.integers.find? (· < 0) with
      | none => .ok t
      | some m => .error
        (.typeMismatch c.definition.name .integer (.unreadable (Decimal.render m))) := by
  obtain ⟨inside, here⟩ := List.getElem?_eq_some_iff.mp entry
  have names : ({ t with columns := t.columns.set i new } : Table).columnNames = t.columnNames := by
    refine map_set_of_same (f := fun c : Column => c.definition.name) ?_
    rw [List.getElem?_map, entry, Option.map_some, recast.name]
  have moved := modifyColumns_single_of_valid (t := { t with columns := t.columns.set i new })
    (d := ⟨name, .integer, default⟩) ((position?_congr names name).trans position)
    (List.getElem?_set_self inside) trivial
  have refused := recast.refusal?_back sound kind
  rw [moved]
  cases first : c.integers.find? (· < 0) with
  | none =>
    have nonneg := Column.find?_negative_eq_none_iff.mp first
    rw [Column.retyped_eq_ok_iff.mpr ⟨recast.back sound kind nonneg, canonical⟩, map_ok_eq,
      List.set_set, ← here, List.set_getElem_self]
  | some m =>
    rw [first, Option.map_some, refusal?_eq_some_iff] at refused
    rw [refused]
    rfl

/-- An integer column of any table of a catalog takes a text type exactly when the decimal texts of
its integers are short enough, which for twenty characters they always are. The way back is open
exactly when none of the integers is negative; it then restores the table, and else it is refused
for the first negative one and the texts stay. -/
theorem integers_as_texts_and_back (calls : List Catalog.Call)
    (listed : t ∈ (Catalog.empty.after calls).allTables) (member : c ∈ t.columns)
    (kind : c.definition.type = .integer) {n : UInt32} (valid : 1 ≤ n.toNat ∧ n.toNat ≤ 255)
    {name name' : String} (named : c.definition.isNamed name = true)
    (named' : c.definition.isNamed name' = true) (default default' : Option Value) :
    let o := (Call.modifyColumns [⟨name, .varchar n, default⟩]).perform t
    let o' := (Call.modifyColumns [⟨name', .integer, default'⟩]).perform o.state
    (o.answer = .ok none ↔ ∀ m ∈ c.integers, (Decimal.render m).length ≤ n.toNat) ∧
    (20 ≤ n.toNat → o.answer = .ok none) ∧
    (o.answer = .ok none →
      (o'.answer = .ok none ↔ ∀ m ∈ c.integers, 0 ≤ m) ∧
      (o'.answer = .ok none → o'.state = t) ∧
      ∀ m ∈ c.integers, m < 0 → ∃ first, c.integers.find? (· < 0) = some first ∧
        o'.state = o.state ∧ o'.answer = .error
          (.typeMismatch c.definition.name .integer (.unreadable (Decimal.render first)))) := by
  intro o o'
  obtain ⟨h, canonical⟩ := Catalog.forall_allTables lasting_canonical calls t listed
  obtain ⟨i, entry⟩ := List.getElem?_of_mem member
  have sound := h.sound c member
  have texts := modifyColumns_single_of_valid (d := ⟨name, .varchar n, default⟩)
    ((h.position?_eq_some_iff entry).mpr named) entry valid
  have there : o = _ := perform_modifyColumns t _
  rw [texts] at there
  have succeeded : o.answer = .ok none ↔
      ∃ new, c.retyped ⟨c.definition.name, .varchar n, none⟩ = .ok new := by
    rw [there]
    cases c.retyped ⟨c.definition.name, .varchar n, none⟩ <;> simp [Except.map]
  have short := succeeded.trans (sound.exists_retyped_varchar_iff kind)
  refine ⟨short, fun enough => short.mpr fun m _ => (Decimal.length_render_le m).trans enough,
    fun answered => ?_⟩
  obtain ⟨new, result⟩ := succeeded.mp answered
  have recast := (Column.retyped_eq_ok_iff.mp result).1
  rw [result, map_ok_eq] at there
  have back : o' = _ := perform_modifyColumns o.state _
  have left : o.state = { t with columns := t.columns.set i new } := by rw [there]
  nth_rewrite 1 [left] at back
  rw [modifyColumns_back ((h.position?_eq_some_iff entry).mpr named') entry sound
    (canonical c member) kind recast default'] at back
  have signs := Column.find?_negative_eq_none_iff (c := c)
  cases first : c.integers.find? (· < 0) with
  | none =>
    rw [first] at back signs
    have nonneg := signs.mp rfl
    refine ⟨iff_of_true (by rw [back]) nonneg, fun _ => by rw [back], fun m member negative => ?_⟩
    exact absurd negative (Int64.not_lt.mpr (nonneg m member))
  | some m =>
    rw [first] at back signs
    have refused : ¬ ∀ m ∈ c.integers, 0 ≤ m := fun nonneg => by cases signs.mpr nonneg
    exact ⟨iff_of_false (by simp [back]) refused, fun answered => by simp [back] at answered,
      fun _ _ _ => ⟨m, rfl, by rw [back], by rw [back]⟩⟩

/-- Two columns of one table, one that comes back and one with a negative integer. -/
theorem integers_as_texts_and_back_both_signs :
    let definitions : List Column.Definition :=
      [⟨"total", .integer, some (.integer 7)⟩, ⟨"change", .integer, none⟩]
    let calls : List Catalog.Call := [.createDatabase "shop", .useDatabase "shop",
      .createTable "days" definitions,
      .insert "days" ["total", "change"] [.number 120, .number (-5)],
      .insert "days" ["total", "change"] [.null, .number 3]]
    let t := (ofDefinitions "days" definitions).after
      [.insert ["total", "change"] [.number 120, .number (-5)],
        .insert ["total", "change"] [.null, .number 3]]
    let total := Column.ofValues ⟨"total", .integer, some (.integer 7)⟩ [.integer 120, .null]
    let change := Column.ofValues ⟨"change", .integer, none⟩ [.integer (-5), .integer 3]
    let texts (name : String) := (Call.modifyColumns [⟨name, .varchar 3, none⟩]).perform t
    let back (name : String) :=
      (Call.modifyColumns [⟨name, .integer, none⟩]).perform (texts name).state
    t ∈ (Catalog.empty.after calls).allTables ∧ total ∈ t.columns ∧ change ∈ t.columns ∧
      (texts "TOTAL").answer = .ok none ∧ (back "TOTAL").answer = .ok none ∧
      (back "TOTAL").state = t ∧ (texts "change").answer = .ok none ∧
      (back "change").state = (texts "change").state ∧
      (back "change").answer = .error (.typeMismatch "change" .integer (.unreadable "-5")) := by
  intro definitions calls t total change texts back
  have listed : t ∈ (Catalog.empty.after calls).allTables := by decide +kernel
  have first : total ∈ t.columns := by decide +kernel
  have second : change ∈ t.columns := by decide +kernel
  have named : total.definition.isNamed "TOTAL" = true := by decide +kernel
  have named' : change.definition.isNamed "change" = true := by decide +kernel
  obtain ⟨short, _, restored⟩ := integers_as_texts_and_back (n := 3) calls listed first rfl
    (by decide) named named none none
  obtain ⟨short', _, refused⟩ := integers_as_texts_and_back (n := 3) calls listed second rfl
    (by decide) named' named' none none
  -- decided entry by entry, not for every 64-bit integer in turn
  have fits : total.integers.all (fun m => (Decimal.render m).length ≤ 3) = true := by
    decide +kernel
  have fits' : change.integers.all (fun m => (Decimal.render m).length ≤ 3) = true := by
    decide +kernel
  have signs : total.integers.all (0 ≤ ·) = true := by decide +kernel
  have answered := short.mpr (by simpa [List.all_eq_true] using fits)
  have answered' := short'.mpr (by simpa [List.all_eq_true] using fits')
  obtain ⟨nonneg, same, _⟩ := restored answered
  have returned := nonneg.mpr (by simpa [List.all_eq_true] using signs)
  obtain ⟨m, found, kept⟩ := (refused answered').2.2 (-5) (by decide +kernel) (by decide)
  have negative : change.integers.find? (· < 0) = some (-5) := by decide +kernel
  obtain rfl : -5 = m := Option.some.inj (negative.symm.trans found)
  exact ⟨listed, first, second, answered, returned, same returned, answered', kept⟩

end Table

end ColumnStore
