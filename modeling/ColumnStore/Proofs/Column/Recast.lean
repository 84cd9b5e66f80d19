import ColumnStore.Proofs.Column.Canonical
import ColumnStore.Table.Retyping

/-!
# Casting a column

A column that takes a new type is built anew from its cast contents. It is the only column with
these contents that was built by pushes, so a cast back to the old contents gives the old column.
-/

namespace ColumnStore

theorem ColumnType.recast?_of_admits {type : ColumnType} {value : Value}
    (admitted : type.Admits value) : type.recast? value = some value := by
  cases type <;> cases value <;> simp_all [Admits, recast?, fitted?]

namespace Column.Definition

variable {target : Definition} {value result : Value}

theorem toOption_cast (target : Definition) (value : Value) :
    (target.cast value).toOption = target.type.recast? value := by
  have fitting (limit : UInt32) (s : String) (e : Fault) :
      ((if s.length ≤ limit.toNat then .ok () else .error e) >>= fun _ =>
        (pure (.text s) : Except Fault Value)).toOption = ColumnType.fitted? limit s := by
    rw [ColumnType.fitted?]
    split <;> rfl
  cases value with
  | null => rfl
  | integer n =>
    cases kind : target.type with
    | integer =>
      simp only [cast, ok_bind_eq, check, kind]
      rfl
    | varchar limit =>
      simp only [cast, ok_bind_eq, check, kind]
      exact fitting limit _ _
  | text s =>
    cases kind : target.type with
    | integer =>
      simp only [cast, kind, ColumnType.recast?]
      cases Decimal.readPlainInt64? s with
      | none => rfl
      | some n =>
        simp only [ok_bind_eq, check, kind]
        rfl
    | varchar limit =>
      simp only [cast, ok_bind_eq, check, kind]
      exact fitting limit _ _

theorem cast_eq_ok_iff :
    target.cast value = .ok result ↔ target.type.recast? value = some result := by
  rw [← toOption_cast]
  cases target.cast value <;> simp

theorem refusal?_cast_eq_none_iff :
    refusal? (target.cast value) = none ↔ (target.type.recast? value).isSome = true := by
  rw [refusal?_eq_none_iff, Option.isSome_iff_exists]
  exact exists_congr fun _ => cast_eq_ok_iff

theorem castDefault_eq_ok_iff {old new : Option Value} :
    target.castDefault old = .ok new ↔ old.map target.type.recast? = new.map some := by
  cases old with
  | none => cases new <;> simp [castDefault]
  | some value =>
    rw [castDefault, map_eq_ok_iff]
    simp only [cast_eq_ok_iff]
    cases new <;> simp

theorem refusal?_castDefault (default : Option Value) :
    refusal? (target.castDefault default) =
      default.toList.findSome? fun value => refusal? (target.cast value) := by
  cases default with
  | none => rfl
  | some value =>
    rw [castDefault, Option.toList_some, List.findSome?_singleton]
    cases target.cast value <;> rfl

end Column.Definition

namespace Column

variable {c result : Column} {type : ColumnType} {target : Definition} {count : Nat}

theorem mapM_cast_eq_ok_iff {values results : List Value} :
    values.mapM target.cast = .ok results ↔
      values.map target.type.recast? = results.map some := by
  rw [mapM_eq_ok_iff, ← List.forall₂_eq_eq_eq, List.forall₂_map_left_iff,
    List.forall₂_map_right_iff]
  simp only [Definition.cast_eq_ok_iff]

/-- The first of the contents that cannot be cast is what a new type is refused for. -/
theorem refusal?_retyped (c : Column) (target : Definition) :
    refusal? (c.retyped target) =
      c.contents.findSome? fun value => refusal? (target.cast value) := by
  rw [retyped_eq, contents, List.findSome?_append, ← Definition.refusal?_castDefault,
    ← refusal?_mapM]
  cases target.castDefault c.definition.default with
  | error e => rfl
  | ok default => cases c.values.mapM target.cast <;> rfl

/-- A retyped column is the built column with the recast contents. -/
theorem retyped_eq_ok_iff :
    c.retyped ⟨c.definition.name, type, none⟩ = .ok result ↔
      c.Recast type result ∧ result.Canonical := by
  simp only [retyped_eq, bind_eq_ok_iff, pure_eq_ok_iff, mapM_cast_eq_ok_iff]
  constructor
  · rintro ⟨default, casting, values, casts, rfl⟩
    have admitted := Definition.admits_of_castDefault casting
    have results : c.values.mapM (Definition.cast ⟨c.definition.name, type, none⟩) = .ok values :=
      mapM_cast_eq_ok_iff.mpr casts
    have each : ∀ v ∈ values, type.Admits v := admits_of_mapM_cast results
    have recast := Definition.castDefault_eq_ok_iff.mp casting
    refine ⟨⟨by simp, by simp, by simpa using recast, ?_⟩, canonical_ofValues admitted each⟩
    rw [values_ofValues admitted each, casts]
  · rintro ⟨recast, built⟩
    refine ⟨result.definition.default, Definition.castDefault_eq_ok_iff.mpr recast.default,
      result.values, recast.values, ?_⟩
    rw [← recast.name, ← recast.kind]
    exact built

/-- A column keeps its contents under its own type. -/
theorem Sound.recast_self (h : c.Sound count) : c.Recast c.definition.type c where
  name := rfl
  kind := rfl
  default := by
    cases stored : c.definition.default with
    | none => rfl
    | some value => simp [ColumnType.recast?_of_admits (h.default value stored)]
  values := List.map_congr_left fun value member =>
    ColumnType.recast?_of_admits (h.admitted value member)

end Column

end ColumnStore
