import Mathlib.Data.List.Nodup

/-!
# Lists by position

Columns are found, rewritten and removed by position, in the list of columns and in every row. A
change at one position is read in two ways here: which entries it leaves, and what it does to an
attribute that is read of every entry.
-/

namespace ColumnStore

variable {α β : Type} {xs : List α} {i : Nat} {a : α}

/-! ## One position -/

theorem mem_modify {f : α → α} (h : a ∈ xs.modify i f) :
    a ∈ xs ∨ ∃ old, xs[i]? = some old ∧ f old = a := by
  obtain ⟨j, entry⟩ := List.getElem?_of_mem h
  rw [List.getElem?_modify, Option.map_eq_map, Option.map_eq_some_iff] at entry
  obtain ⟨old, listed, written⟩ := entry
  by_cases here : i = j
  · exact .inr ⟨old, here ▸ listed, by simpa [here] using written⟩
  · exact .inl (by simpa [here, ← written] using List.mem_of_getElem? listed)

/-- Reading after a change of one entry is a change of what was read. -/
theorem map_modify_comm {f : α → α} {h : β → β} {g : α → β} (xs : List α) (i : Nat)
    (comm : ∀ a, g (f a) = h (g a)) : (xs.modify i f).map g = (xs.map g).modify i h := by
  refine List.ext_getElem? fun j => ?_
  rw [List.getElem?_map, List.getElem?_modify, List.getElem?_modify, List.getElem?_map]
  by_cases here : i = j
  · cases xs[j]? <;> simp [here, comm]
  · simp [here]

theorem map_modify {f : α → α} {g : α → β} (xs : List α) (i : Nat) (same : ∀ a, g (f a) = g a) :
    (xs.modify i f).map g = xs.map g :=
  (map_modify_comm (h := id) xs i same).trans (List.modify_id i _)

/-- A change that fixes what is read of the entry. -/
theorem map_modify_eq_set {f : α → α} {g : α → β} {b : β} (xs : List α) (i : Nat)
    (fixed : ∀ a, g (f a) = b) : (xs.modify i f).map g = (xs.map g).set i b := by
  rw [List.set_eq_modify]
  exact map_modify_comm xs i fixed

/-- An entry may be written again where it stands. -/
theorem nodup_set (distinct : xs.Nodup) (free : ∀ j, xs[j]? = some a → j = i) :
    (xs.set i a).Nodup := by
  by_cases listed : a ∈ xs
  · obtain ⟨j, entry⟩ := List.getElem?_of_mem listed
    obtain rfl := free j entry
    obtain ⟨inside, rfl⟩ := List.getElem?_eq_some_iff.mp entry
    rwa [List.set_getElem_self]
  · exact distinct.set listed

/-- An entry that is written over where all are different is no longer listed. -/
theorem not_mem_set {b : α} (distinct : xs.Nodup) (entry : xs[i]? = some a) (other : a ≠ b) :
    a ∉ xs.set i b := by
  intro listed
  obtain ⟨inside, _⟩ := List.getElem?_eq_some_iff.mp entry
  obtain ⟨j, found⟩ := List.getElem?_of_mem listed
  by_cases here : i = j
  · subst here
    rw [List.getElem?_set_self inside] at found
    exact other (Option.some.inj found).symm
  · rw [List.getElem?_set_ne here] at found
    exact here ((List.getElem?_inj inside distinct).mp (entry.trans found.symm))

/-- A change of one entry is taken back by a change that gives the entry itself. -/
theorem modify_modify_of_entry {f g : α → α} (entry : xs[i]? = some a) (back : g (f a) = a) :
    (xs.modify i f).modify i g = xs := by
  refine List.ext_getElem? fun j => ?_
  rw [List.modify_modify_eq, List.getElem?_modify]
  by_cases here : i = j
  · subst here
    simp [entry, back]
  · simp [here]

/-- Writing an entry that agrees in an attribute with the old one leaves the attributes. -/
theorem map_set_of_same {f : α → β} (same : (xs.map f)[i]? = some (f a)) :
    (xs.set i a).map f = xs.map f := by
  obtain ⟨inside, entry⟩ := List.getElem?_eq_some_iff.mp same
  rw [List.map_set, ← entry, List.set_getElem_self]

section Keyed

variable {f : α → β} [DecidableEq β]

/-- Where keys are different, the entry at a position is the only one with its key. -/
theorem modify_eq_map (distinct : (xs.map f).Nodup) (entry : xs[i]? = some a) (g : α → α) :
    xs.modify i g = xs.map fun other => if f other = f a then g other else other := by
  refine List.ext_getElem? fun j => ?_
  rw [List.getElem?_modify, List.getElem?_map]
  cases listed : xs[j]? with
  | none => simp
  | some other =>
    have same : f other = f a ↔ i = j := by
      constructor
      · intro named
        obtain ⟨inside, _⟩ := List.getElem?_eq_some_iff.mp entry
        refine (List.getElem?_inj (by simpa using inside) distinct).mp ?_
        simp [entry, listed, named]
      · rintro rfl
        exact congrArg f (Option.some.inj (listed.symm.trans entry))
    simp [same]

theorem eraseIdx_eq_filter (distinct : (xs.map f).Nodup) (entry : xs[i]? = some a) :
    xs.eraseIdx i = xs.filter (f · ≠ f a) := by
  induction xs generalizing i with
  | nil => rfl
  | cons x xs ih =>
    obtain ⟨fresh, later⟩ := List.nodup_cons.mp distinct
    cases i with
    | zero =>
      obtain rfl : x = a := Option.some.inj entry
      have others : xs.filter (f · ≠ f x) = xs := by
        refine List.filter_eq_self.mpr fun other member => decide_eq_true fun same => ?_
        exact fresh (same ▸ List.mem_map_of_mem member)
      rw [List.filter_cons_of_neg (by simp), others]
      rfl
    | succ i =>
      have apart : f x ≠ f a := by
        intro same
        exact fresh (same ▸ List.mem_map_of_mem (List.mem_of_getElem? entry))
      rw [List.filter_cons_of_pos (by simpa using apart), ← ih later entry]
      rfl

end Keyed

/-! ## Several positions -/

theorem mem_foldl_set {pairs : List (Nat × α)}
    (h : a ∈ pairs.foldl (fun xs (i, a) => xs.set i a) xs) : a ∈ xs ∨ ∃ i, (i, a) ∈ pairs := by
  induction pairs generalizing xs with
  | nil => exact .inl h
  | cons pair rest ih =>
    rcases ih h with old | ⟨i, later⟩
    · rcases List.mem_or_eq_of_mem_set old with old | rfl
      · exact .inl old
      · exact .inr ⟨pair.1, by simp⟩
    · exact .inr ⟨i, List.mem_cons_of_mem _ later⟩

theorem map_foldl_set {f : α → β} {pairs : List (Nat × α)}
    (same : ∀ i a, (i, a) ∈ pairs → (xs.map f)[i]? = some (f a)) :
    (pairs.foldl (fun xs (i, a) => xs.set i a) xs).map f = xs.map f := by
  induction pairs generalizing xs with
  | nil => rfl
  | cons pair rest ih =>
    have first := map_set_of_same (same pair.1 pair.2 (by simp))
    rw [List.foldl_cons, ih, first]
    intro i a member
    rw [first]
    exact same i a (List.mem_cons_of_mem _ member)

theorem length_foldl_set (pairs : List (Nat × α)) (xs : List α) :
    (pairs.foldl (fun xs (i, a) => xs.set i a) xs).length = xs.length := by
  induction pairs generalizing xs with
  | nil => rfl
  | cons pair rest ih => rw [List.foldl_cons, ih, List.length_set]

theorem getElem?_foldl_set_of_not_mem {pairs : List (Nat × α)}
    (unwritten : i ∉ pairs.map Prod.fst) :
    (pairs.foldl (fun xs (i, a) => xs.set i a) xs)[i]? = xs[i]? := by
  induction pairs generalizing xs with
  | nil => rfl
  | cons pair rest ih =>
    rw [List.map_cons, List.mem_cons, not_or] at unwritten
    rw [List.foldl_cons, ih unwritten.2, List.getElem?_set_ne (Ne.symm unwritten.1)]

/-- Where no position is written twice, each holds what was written there. -/
theorem getElem?_foldl_set_of_mem {pairs : List (Nat × α)} (distinct : (pairs.map Prod.fst).Nodup)
    (written : (i, a) ∈ pairs) (inside : i < xs.length) :
    (pairs.foldl (fun xs (i, a) => xs.set i a) xs)[i]? = some a := by
  induction pairs generalizing xs with
  | nil => simp at written
  | cons pair rest ih =>
    obtain ⟨fresh, distinct⟩ := List.nodup_cons.mp distinct
    rw [List.foldl_cons]
    rcases List.mem_cons.mp written with rfl | later
    · rw [getElem?_foldl_set_of_not_mem fresh, List.getElem?_set_self inside]
    · exact ih distinct later (by rwa [List.length_set])

theorem foldl_set_eq_self {pairs : List (Nat × α)}
    (same : ∀ i a, (i, a) ∈ pairs → xs[i]? = some a) :
    pairs.foldl (fun xs (i, a) => xs.set i a) xs = xs := by
  have written : (pairs.foldl (fun xs (i, a) => xs.set i a) xs).map id = xs.map id :=
    map_foldl_set (by simpa using same)
  simpa using written

/-- Where no position is written twice, it does not matter what is written first. -/
theorem foldl_set_perm {pairs pairs' : List (Nat × α)} (distinct : (pairs.map Prod.fst).Nodup)
    (order : pairs.Perm pairs') (xs : List α) :
    pairs.foldl (fun xs (i, a) => xs.set i a) xs =
      pairs'.foldl (fun xs (i, a) => xs.set i a) xs := by
  refine order.foldl_eq' (fun first member second member' current => ?_) xs
  by_cases same : first.1 = second.1
  · rw [List.inj_on_of_nodup_map distinct member member' same]
  · exact List.set_comm first.2 second.2 same

/-- What stays after a removal by positions stays in its order. -/
theorem kept_sublist (doomed : List Nat) (xs : List α) :
    ((xs.zipIdx.filter fun (_, i) => !doomed.contains i).map (·.1)).Sublist xs := by
  have chosen := (List.filter_sublist (p := fun x => !doomed.contains x.2) (l := xs.zipIdx)).map
    Prod.fst
  rwa [List.zipIdx_map_fst] at chosen

theorem filterMap_getElem?_map (f : α → β) (xs : List α) (chosen : List Nat) :
    chosen.filterMap ((xs.map f)[·]?) = (chosen.filterMap (xs[·]?)).map f := by
  simp only [List.map_filterMap, List.getElem?_map]

end ColumnStore
