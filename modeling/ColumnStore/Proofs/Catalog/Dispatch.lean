import ColumnStore.Catalog.Dispatch

/-!
# A shared catalog replies as a catalog by itself

Three places sort the statements into those that read and those that change something: the
predicate, the arms of `query?` and the arms of `execute?`. They sort alike, so no statement comes
to `query?` that it has no answer to, and it makes no difference which way a statement takes.
-/

namespace ColumnStore.Catalog

/-- A query answers the statements that only read and no others, and as they are executed. -/
theorem query?_eq (c : Catalog) (s : Statement) :
    (c.query? s).map (⟨·, c⟩) = if s.isReadOnly then some (c.execute s) else none := by
  cases s <;> rfl

theorem execute?_eq (c : Catalog) (s : Statement) : c.execute? s = some (c.execute s) := by
  cases s <;> rfl

theorem dispatch?_eq (c : Catalog) (s : Statement) : c.dispatch? s = some (c.execute s) := by
  rw [dispatch?, query?_eq]
  split <;> rfl

theorem runShared?_eq (c : Catalog) (text : String) : c.runShared? text = some (c.run text) := by
  rw [runShared?, run]
  cases Statement.ofText text with
  | error e => rfl
  | ok s =>
    simp only [dispatch?_eq]
    rfl

theorem runEachShared?_eq (c : Catalog) (texts : List String) :
    c.runEachShared? texts = some (c.runEach texts) := by
  induction texts generalizing c with
  | nil => rfl
  | cons text rest ih =>
    simp only [runEachShared?, runShared?_eq, Option.bind_eq_bind, Option.bind_some, ih]
    rfl

/-- On every catalog a query has an answer to exactly the statements that only read, the one they
get when they are executed, which leaves the catalog. So neither way comes to a query without an
answer, a shared catalog replies and changes as a catalog by itself, and both run any texts in turn
to the same answers and the same catalog. -/
theorem shared_agrees_with_plain (c : Catalog) :
    (∀ s, (c.query? s).map (⟨·, c⟩) = if s.isReadOnly then some (c.execute s) else none) ∧
    (∀ s, c.execute? s = some (c.execute s) ∧ c.dispatch? s = some (c.execute s)) ∧
    ∀ texts, c.runEachShared? texts = some (c.runEach texts) :=
  ⟨c.query?_eq, fun s => ⟨c.execute?_eq s, c.dispatch?_eq s⟩, c.runEachShared?_eq⟩

end ColumnStore.Catalog
