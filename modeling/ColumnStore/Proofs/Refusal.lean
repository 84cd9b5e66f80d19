import Mathlib.Data.List.Forall2
import ColumnStore.Outcome

/-!
# Success and refusal

A checked computation succeeds exactly when each of its steps does, and a list of them exactly
when every one does. A call on a state settles when a refusal leaves the old state and a success
leaves a state with a stated property; every operation of the catalog is shown to settle once,
and both the invariants and the atomicity of refused calls are read off from that.
-/

namespace ColumnStore

variable {ε ε' σ τ α β : Type}

theorem bind_eq_ok_iff {x : Except ε α} {f : α → Except ε β} {b : β} :
    (x >>= f) = .ok b ↔ ∃ a, x = .ok a ∧ f a = .ok b := by
  cases x with
  | error e => simp [bind, Except.bind]
  | ok a => simp [bind, Except.bind]

/-- A check without a result passes before the rest goes on. -/
theorem check_bind_eq_ok_iff {x : Except ε Unit} {f : Unit → Except ε β} {b : β} :
    (x >>= f) = .ok b ↔ x = .ok () ∧ f () = .ok b :=
  bind_eq_ok_iff.trans ⟨fun ⟨_, checked, rest⟩ => ⟨checked, rest⟩,
    fun ⟨checked, rest⟩ => ⟨(), checked, rest⟩⟩

theorem map_eq_ok_iff {x : Except ε α} {f : α → β} {b : β} :
    x.map f = .ok b ↔ ∃ a, x = .ok a ∧ f a = b := by
  cases x <;> simp [Except.map]

theorem pure_eq_ok_iff {a b : α} : (pure a : Except ε α) = .ok b ↔ a = b := by
  simp [pure, Except.pure]

theorem throw_bind_eq_ok_iff {e : ε} {f : α → Except ε β} {b : β} :
    ((throw e : Except ε α) >>= f) = .ok b ↔ False := by
  simp [throw, throwThe, MonadExceptOf.throw, bind, Except.bind]

/-- A guard that would throw is not met before the rest goes on. -/
theorem guard_eq_ok_iff {p : Prop} [Decidable p] {e : ε} {f : α → Except ε β} {x : Except ε β}
    {b : β} : (if p then (throw e : Except ε α) >>= f else x) = .ok b ↔ ¬ p ∧ x = .ok b := by
  split <;> simp [*, throw_bind_eq_ok_iff]

theorem mapM_cons_eq_ok_iff {f : α → Except ε β} {a : α} {as : List α} {bs : List β} :
    (a :: as).mapM f = .ok bs ↔
      ∃ b rest, f a = .ok b ∧ as.mapM f = .ok rest ∧ bs = b :: rest := by
  simp only [List.mapM_cons, bind_eq_ok_iff, pure_eq_ok_iff]
  constructor
  · rintro ⟨b, hb, rest, hrest, rfl⟩
    exact ⟨b, rest, hb, hrest, rfl⟩
  · rintro ⟨b, rest, hb, hrest, rfl⟩
    exact ⟨b, hb, rest, hrest, rfl⟩

theorem mapM_eq_ok_iff {f : α → Except ε β} {as : List α} {bs : List β} :
    as.mapM f = .ok bs ↔ List.Forall₂ (fun a b => f a = .ok b) as bs := by
  induction as generalizing bs with
  | nil => simp [pure, Except.pure, eq_comm]
  | cons a as ih =>
    rw [mapM_cons_eq_ok_iff, List.forall₂_cons_left_iff]
    simp only [ih]

theorem forall₂_of_mapM {R : α → β → Prop} {f : α → Except ε β} {as : List α} {bs : List β}
    (h : as.mapM f = .ok bs) (each : ∀ a ∈ as, ∀ b, f a = .ok b → R a b) :
    List.Forall₂ R as bs := by
  refine List.Forall₂.imp ?_ ((List.forall₂_and_left _ _).mpr
    ⟨fun _ member => member, mapM_eq_ok_iff.mp h⟩)
  rintro a b ⟨member, result⟩
  exact each a member b result

theorem forall₂_congr_mem {R S : α → β → Prop} {as : List α} {bs : List β}
    (each : ∀ a ∈ as, ∀ b, R a b ↔ S a b) : List.Forall₂ R as bs ↔ List.Forall₂ S as bs := by
  induction as generalizing bs with
  | nil => simp
  | cons a as ih =>
    obtain ⟨first, others⟩ := List.forall_mem_cons.mp each
    simp only [List.forall₂_cons_left_iff, first, ih others]

/-- A list of results for pairs, compared with the first components alone. -/
theorem forall₂_of_mapM_zip {R : α → β → Prop} {f : α × σ → Except ε β} {as : List α}
    {others : List σ} {bs : List β} (h : (as.zip others).mapM f = .ok bs)
    (full : others.length = as.length) (each : ∀ a ∈ as, ∀ s b, f (a, s) = .ok b → R a b) :
    List.Forall₂ R as bs := by
  have first : (as.zip others).map Prod.fst = as := List.map_fst_zip (by omega)
  rw [← first, List.forall₂_map_left_iff]
  refine forall₂_of_mapM h ?_
  rintro ⟨a, s⟩ member b result
  exact each a (List.of_mem_zip member).1 s b result

/-- Two lists of results for the same list are one list of pairs of results. -/
theorem forall₂_pairs_iff (R : α → β → Prop) (S : α → σ → Prop) (as : List α)
    (pairs : List (β × σ)) :
    List.Forall₂ (fun a pair => R a pair.1 ∧ S a pair.2) as pairs ↔
      List.Forall₂ R as (pairs.map Prod.fst) ∧ List.Forall₂ S as (pairs.map Prod.snd) := by
  induction as generalizing pairs with
  | nil => simp
  | cons a as ih => cases pairs <;> simp [ih, and_and_and_comm]

theorem exists_right_of_forall₂ {R : α → β → Prop} {as : List α} {bs : List β}
    (paired : List.Forall₂ R as bs) {a : α} (member : a ∈ as) : ∃ b ∈ bs, R a b := by
  obtain ⟨i, inside, rfl⟩ := List.mem_iff_getElem.mp member
  have within : i < bs.length := paired.length_eq ▸ inside
  exact ⟨bs[i], List.getElem_mem within, paired.get inside within⟩

theorem exists_left_of_forall₂ {R : α → β → Prop} {as : List α} {bs : List β}
    (paired : List.Forall₂ R as bs) {b : β} (member : b ∈ bs) : ∃ a ∈ as, R a b :=
  exists_right_of_forall₂ (List.Forall₂.flip paired) member

/-- What holds of each result holds of a list of results. -/
theorem forall_of_mapM {P : β → Prop} {f : α → Except ε β} {as : List α} {bs : List β}
    (h : as.mapM f = .ok bs) (each : ∀ a ∈ as, ∀ b, f a = .ok b → P b) : ∀ b ∈ bs, P b := by
  intro b member
  obtain ⟨a, listed, result⟩ := exists_left_of_forall₂ (mapM_eq_ok_iff.mp h) member
  exact each a listed b result

theorem length_mapM {f : α → Except ε β} {as : List α} {bs : List β} (h : as.mapM f = .ok bs) :
    bs.length = as.length :=
  (mapM_eq_ok_iff.mp h).length_eq.symm

/-- Two computations agree when they check the same first and go on alike after its success. -/
theorem bind_congr_ok {x : Except ε α} {f g : α → Except ε β} (h : ∀ a, x = .ok a → f a = g a) :
    (x >>= f) = (x >>= g) := by
  cases result : x with
  | error e => rfl
  | ok a => exact h a result

theorem ok_bind_eq {a : α} {f : α → Except ε β} : (Except.ok a >>= f) = f a := rfl

theorem map_ok_eq {a : α} {f : α → β} : (Except.ok a : Except ε α).map f = .ok (f a) := rfl

theorem map_bind_eq {x : Except ε α} {f : α → Except ε β} {g : β → σ} :
    (x >>= f).map g = x >>= fun a => (f a).map g := by
  cases x <;> rfl

theorem mapM_congr_mem {f g : α → Except ε β} {as : List α} (h : ∀ a ∈ as, f a = g a) :
    as.mapM f = as.mapM g := by
  induction as with
  | nil => rfl
  | cons a as ih =>
    rw [List.mapM_cons, List.mapM_cons, h a (by simp), ih fun b later => h b (by simp [later])]

/-- Results that are computed further one by one may as well be computed further together. -/
theorem mapM_map_result {f : α → Except ε β} {g : α → β → σ} (as : List α) :
    (as.mapM fun a => (f a).map (g a)) = (as.mapM f).map (List.zipWith g as) := by
  induction as with
  | nil => rfl
  | cons a as ih =>
    rw [List.mapM_cons, List.mapM_cons, ih]
    cases f a with
    | error e => rfl
    | ok b => cases as.mapM f <;> rfl

theorem mapM_eq_ok_map {f : α → Except ε β} {g : α → β} {as : List α}
    (h : ∀ a ∈ as, f a = .ok (g a)) : as.mapM f = .ok (as.map g) :=
  (mapM_congr_mem h).trans List.mapM_pure

/-- Steps that each succeed under a condition succeed when all conditions hold. -/
theorem mapM_eq_ok_map_iff {f : α → Except ε β} {P : α → Prop} {g : α → β} {as : List α}
    {bs : List β} (each : ∀ a ∈ as, ∀ b, f a = .ok b ↔ P a ∧ g a = b) :
    as.mapM f = .ok bs ↔ (∀ a ∈ as, P a) ∧ as.map g = bs := by
  constructor
  · intro h
    have steps := forall₂_of_mapM h fun a member b => (each a member b).mp
    have holds : ∀ a ∈ as, P a := by
      intro a member
      obtain ⟨b, _, step⟩ := exists_right_of_forall₂ steps member
      exact step.1
    refine ⟨holds, ?_⟩
    rw [← List.forall₂_eq_eq_eq, List.forall₂_map_left_iff]
    exact steps.imp fun _ _ step => step.2
  · rintro ⟨holds, rfl⟩
    exact mapM_eq_ok_map fun a member => (each a member (g a)).mpr ⟨holds a member, rfl⟩

theorem refusal?_eq_none_iff {x : Except ε α} : refusal? x = none ↔ ∃ a, x = .ok a := by
  cases x <;> simp [refusal?]

theorem refusal?_eq_some_iff {x : Except ε α} {e : ε} : refusal? x = some e ↔ x = .error e := by
  cases x <;> simp [refusal?]

theorem refusal?_check_eq_none_iff {x : Except ε Unit} : refusal? x = none ↔ x = .ok () := by
  cases x <;> simp [refusal?]

theorem findSome?_congr_mem {f g : α → Option β} {as : List α} (h : ∀ a ∈ as, f a = g a) :
    as.findSome? f = as.findSome? g := by
  rw [← List.head?_filterMap, ← List.head?_filterMap, List.filterMap_congr h]

theorem findSome?_ite_some (p : α → Bool) (f : α → β) (as : List α) :
    (as.findSome? fun a => if p a then some (f a) else none) = (as.find? p).map f := by
  induction as with
  | nil => rfl
  | cons a as ih =>
    rw [List.findSome?_cons, List.find?_cons, ih]
    cases p a <;> rfl

/-- A list of computations is refused for the first of them that is refused. -/
theorem refusal?_mapM {f : α → Except ε β} (as : List α) :
    refusal? (as.mapM f) = as.findSome? fun a => refusal? (f a) := by
  induction as with
  | nil => rfl
  | cons a as ih =>
    rw [List.mapM_cons, List.findSome?_cons, ← ih]
    cases f a with
    | error e => rfl
    | ok b => cases as.mapM f <;> rfl

@[simp]
theorem toOption_ok (a : α) : (Except.ok a : Except ε α).toOption = some a := rfl

@[simp]
theorem toOption_error (e : ε) : (Except.error e : Except ε α).toOption = none := rfl

theorem toOption_eq_some_iff {x : Except ε α} {a : α} : x.toOption = some a ↔ x = .ok a := by
  cases x <;> simp

@[simp]
theorem toOption_pure (a : α) : (pure a : Except ε α).toOption = some a := rfl

@[simp]
theorem toOption_throw (e : ε) : (throw e : Except ε α).toOption = none := rfl

@[simp]
theorem toOption_map (x : Except ε α) (f : α → β) : (x.map f).toOption = x.toOption.map f := by
  cases x <;> rfl

@[simp]
theorem toOption_functor_map (x : Except ε α) (f : α → β) :
    (f <$> x).toOption = x.toOption.map f :=
  toOption_map x f

@[simp]
theorem toOption_bind (x : Except ε α) (f : α → Except ε β) :
    (x >>= f).toOption = x.toOption.bind fun a => (f a).toOption := by
  cases x <;> rfl

namespace Outcome

/-- A refused call leaves the old state, and an answered one a state with the property. -/
structure Settles (old : σ) (P : σ → Prop) (o : Outcome ε σ α) : Prop where
  refused : ∀ e, o.answer = .error e → o.state = old
  answered : ∀ a, o.answer = .ok a → P o.state

variable {old : σ} {P Q : σ → Prop}

theorem settles_error (e : ε) : Settles old P (⟨.error e, old⟩ : Outcome ε σ α) where
  refused _ _ := rfl
  answered _ h := by cases h

theorem settles_ok (a : α) {new : σ} (h : P new) :
    Settles old P (⟨.ok a, new⟩ : Outcome ε σ α) where
  refused _ refused := by cases refused
  answered _ _ := h

/-- A call that only reads settles whatever it answers. -/
theorem settles_read (answer : Except ε α) (h : P old) : Settles old P ⟨answer, old⟩ where
  refused _ _ := rfl
  answered _ _ := h

theorem settles_commit {new : Except ε σ} (h : ∀ s, new = .ok s → P s) :
    Settles old P (commit old new) := by
  cases new with
  | error e => exact settles_error e
  | ok s => exact settles_ok () (h s rfl)

/-- Exactly the calls that commit are answered. -/
theorem commit_eq_ok_iff {new : Except ε σ} {s : σ} :
    commit old new = ⟨.ok (), s⟩ ↔ new = .ok s := by
  cases new <;> simp [commit]

theorem mapState_commit {f : σ → τ} (new : Except ε σ) :
    (commit old new).mapState f = commit (f old) (new.map f) := by
  cases new <;> rfl

/-! ## Answered calls -/

/-- The state behind a call that is answered. -/
def success? (o : Outcome ε σ α) : Option σ :=
  match o.answer with
  | .ok _ => some o.state
  | .error _ => none

@[simp]
theorem success?_map (f : α → β) (o : Outcome ε σ α) : (o.map f).success? = o.success? := by
  rcases o with ⟨_ | _, _⟩ <;> rfl

@[simp]
theorem success?_mapError (f : ε → ε') (o : Outcome ε σ α) :
    (o.mapError f).success? = o.success? := by
  rcases o with ⟨_ | _, _⟩ <;> rfl

@[simp]
theorem success?_commit (old : σ) (new : Except ε σ) :
    (commit old new).success? = new.toOption := by
  cases new <;> rfl

@[simp]
theorem success?_read (answer : Except ε α) (old : σ) :
    (⟨answer, old⟩ : Outcome ε σ α).success? = answer.toOption.map fun _ => old := by
  cases answer <;> rfl

theorem success?_withState (o : Outcome ε σ α) (f : σ → τ) :
    (⟨o.answer, f o.state⟩ : Outcome ε τ α).success? = o.success?.map f := by
  rcases o with ⟨_ | _, _⟩ <;> rfl

theorem isSome_success? {o : Outcome ε σ α} : o.success?.isSome ↔ ∃ a, o.answer = .ok a := by
  rcases o with ⟨_ | _, _⟩ <;> simp [success?]

namespace Settles

variable {o : Outcome ε σ α}

theorem imp (h : Settles old P o) (weaker : ∀ s, P s → Q s) : Settles old Q o where
  refused := h.refused
  answered a answered := weaker _ (h.answered a answered)

theorem of_eq_ok {a : α} {s : σ} (h : Settles old P o) (answered : o = ⟨.ok a, s⟩) : P s := by
  subst answered
  exact h.answered a rfl

theorem map (h : Settles old P o) (f : α → β) : Settles old P (o.map f) := by
  cases ha : o.answer with
  | error e => exact ⟨fun _ _ => h.refused e ha, by simp [Outcome.map, ha, Except.map]⟩
  | ok a => exact ⟨by simp [Outcome.map, ha, Except.map], fun _ _ => h.answered a ha⟩

/-- A call settles whatever is made of its answer. -/
theorem of_map {f : α → β} (h : Settles old P (o.map f)) : Settles old P o where
  refused e refused := h.refused e (by simp [Outcome.map, refused, Except.map])
  answered a answered := h.answered (f a) (by simp [Outcome.map, answered, Except.map])

theorem mapError (h : Settles old P o) (f : ε → ε') : Settles old P (o.mapError f) := by
  cases ha : o.answer with
  | error e =>
    exact ⟨fun _ _ => h.refused e ha, by simp [Outcome.mapError, ha, Except.mapError]⟩
  | ok a => exact ⟨by simp [Outcome.mapError, ha, Except.mapError], fun _ _ => h.answered a ha⟩

/-- Whatever the answer, the state keeps a property that the old one has. -/
theorem keeps (h : Settles old P o) (before : P old) : P o.state := by
  cases ha : o.answer with
  | error e => rw [h.refused e ha]; exact before
  | ok a => exact h.answered a ha

end Settles

end Outcome

end ColumnStore
