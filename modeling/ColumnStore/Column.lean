import ColumnStore.Column.Definition

/-!
# Columns

A column keeps its values in one array of its storage kind and a bitmap of the rows that are
NULL; a NULL row holds a placeholder in the array, which is never read. The storage kind is
chosen when the column is made. A definition changed afterwards does not change the storage, so
a push checks the value against both.
-/

namespace ColumnStore

/-- The stored values of a column, placeholders included. -/
inductive Cells
  | integers (xs : Array Int64)
  | texts (xs : Array String)
  deriving DecidableEq, Repr

namespace Cells

def empty : ColumnType → Cells
  | .integer => integers #[]
  | .varchar _ => texts #[]

def size : Cells → Nat
  | integers xs => xs.size
  | texts xs => xs.size

def get? : Cells → Nat → Option Value
  | integers xs, row => xs[row]?.map .integer
  | texts xs, row => xs[row]?.map .text

def toList : Cells → List Value
  | integers xs => xs.toList.map .integer
  | texts xs => xs.toList.map .text

/-- Appends a value of the storage kind, or the placeholder for NULL. -/
def push? : Cells → Value → Option Cells
  | integers xs, .null => some (integers (xs.push 0))
  | integers xs, .integer n => some (integers (xs.push n))
  | texts xs, .null => some (texts (xs.push ""))
  | texts xs, .text s => some (texts (xs.push s))
  | _, _ => none

def clear : Cells → Cells
  | integers _ => integers #[]
  | texts _ => texts #[]

@[simp] theorem toList_empty (type : ColumnType) : (empty type).toList = [] := by
  cases type <;> rfl

@[simp] theorem length_toList (cells : Cells) : cells.toList.length = cells.size := by
  cases cells <;> simp [toList, size]

theorem get?_eq (cells : Cells) (row : Nat) : cells.get? row = cells.toList[row]? := by
  cases cells <;> simp [get?, toList]

/-- A push adds one value, which is the pushed one unless that is NULL. -/
theorem toList_push? {cells pushed : Cells} {value : Value} (h : cells.push? value = some pushed) :
    ∃ stored, pushed.toList = cells.toList ++ [stored] ∧ (value = .null ∨ stored = value) := by
  cases cells <;> cases value <;> simp_all only [push?, Option.some.injEq, reduceCtorEq] <;>
    subst h <;> simp [toList]

end Cells

structure Column where
  definition : Column.Definition
  cells : Cells
  nulls : Array Bool
  deriving DecidableEq, Repr

namespace Column

def empty (d : Definition) : Column := ⟨d, .empty d.type, #[]⟩

def size (c : Column) : Nat := c.nulls.size

def get? (c : Column) (row : Nat) : Option Value :=
  match c.nulls[row]?, c.cells.get? row with
  | some isNull, some value => some (if isNull then .null else value)
  | _, _ => none

/-- The column read as a list of values. -/
def values (c : Column) : List Value :=
  List.zipWith (fun isNull value => if isNull then .null else value) c.nulls.toList c.cells.toList

/-- The bitmap covers the rows of the storage exactly. -/
def Aligned (c : Column) : Prop := c.nulls.size = c.cells.size

theorem get?_eq (c : Column) (row : Nat) : c.get? row = c.values[row]? := by
  rw [get?, values, List.getElem?_zipWith, Array.getElem?_toList, ← Cells.get?_eq]
  cases c.nulls[row]? <;> cases c.cells.get? row <;> rfl

@[simp] theorem values_empty (d : Definition) : (empty d).values = [] := by
  simp [empty, values]

theorem aligned_empty (d : Definition) : (empty d).Aligned := by
  cases h : d.type <;> simp [Aligned, empty, Cells.empty, Cells.size, h]

theorem length_values {c : Column} (h : c.Aligned) : c.values.length = c.size := by
  simp [values, size, ← h.symm]

def push (c : Column) (value : Value) : Except Fault Column := do
  c.definition.check value
  match c.cells.push? value with
  | some cells => return { c with cells, nulls := c.nulls.push value.isNull }
  | none => throw (c.definition.mismatch (.value value.kind))

theorem push_eq_ok {c pushed : Column} {value : Value} (h : c.push value = .ok pushed) :
    ∃ cells, c.cells.push? value = some cells ∧
      pushed = { c with cells, nulls := c.nulls.push value.isNull } := by
  rw [push] at h
  cases fits : c.definition.check value with
  | error e => simp [fits, bind, Except.bind] at h
  | ok _ =>
    cases stored : c.cells.push? value with
    | none => simp [fits, stored, bind, Except.bind, throw, throwThe, MonadExceptOf.throw] at h
    | some cells =>
      simp only [fits, stored, bind, Except.bind, pure, Except.pure, Except.ok.injEq] at h
      exact ⟨cells, rfl, h.symm⟩

theorem aligned_push {c pushed : Column} {value : Value} (aligned : c.Aligned)
    (h : c.push value = .ok pushed) : pushed.Aligned := by
  obtain ⟨cells, stored, rfl⟩ := push_eq_ok h
  obtain ⟨last, grown, _⟩ := Cells.toList_push? stored
  have size := congrArg List.length grown
  simp only [Cells.length_toList, List.length_append, List.length_singleton] at size
  simp only [Aligned, Array.size_push] at aligned ⊢
  omega

/-- A successful push adds the value at the end and leaves the others. -/
theorem values_push {c pushed : Column} {value : Value} (aligned : c.Aligned)
    (h : c.push value = .ok pushed) : pushed.values = c.values ++ [value] := by
  obtain ⟨cells, stored, rfl⟩ := push_eq_ok h
  obtain ⟨last, grown, same⟩ := Cells.toList_push? stored
  have lengths : c.nulls.toList.length = c.cells.toList.length := by
    simpa [Aligned] using aligned
  simp only [values, grown, Array.toList_push, List.zipWith_append lengths]
  rcases same with rfl | rfl
  · simp [Value.isNull]
  · cases last <;> simp [Value.isNull]

/-- Appends a value `count` times. -/
def pushCopies (c : Column) (value : Value) : Nat → Except Fault Column
  | 0 => return c
  | count + 1 => do (← c.push value).pushCopies value count

/-- A new column that holds `count` copies of a value. -/
def filled (d : Definition) (count : Nat) (value : Value) : Except Fault Column := do
  d.check value
  (empty d).pushCopies value count

def clear (c : Column) : Column := { c with cells := c.cells.clear, nulls := #[] }

/-- A new column under the target's name and type. The stored default is cast first, then every
value in turn; a default inside the target is ignored. -/
def retyped (c : Column) (target : Definition) : Except Fault Column := do
  let default ← target.castDefault c.definition.default
  let target := { target with default }
  c.values.foldlM (fun column value => do column.push (← target.cast value)) (empty target)

end Column

end ColumnStore
