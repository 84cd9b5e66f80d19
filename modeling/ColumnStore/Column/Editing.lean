import ColumnStore.Column
import ColumnStore.Outcome

/-!
# Editing a column

A column may be changed directly, apart from a table: values are pushed, the column is cleared or
retyped, and the type and the default of its definition are assigned. Nothing brings the storage
into line with an assigned type, so a column may declare one kind and store the other. A push is
given here as it is made in place, first in the storage and then in the bitmap.
-/

namespace ColumnStore.Column

/-- A column that is changed in place by steps that may be refused. -/
abbrev InPlace := ExceptT Fault (StateM Column)

/-- Extends the storage and then the bitmap. -/
def grow (cells : Cells) (isNull : Bool) : InPlace Unit := do
  modify fun c => { c with cells }
  modify fun c => { c with nulls := c.nulls.push isNull }

/-- Stores a value of the kind of the storage, or a placeholder for NULL. -/
def storeSteps (value : Value) : InPlace Unit := do
  let c ← get
  match c.cells, value with
  | .integers xs, .null => grow (.integers (xs.push 0)) true
  | .texts xs, .null => grow (.texts (xs.push "")) true
  | .integers xs, .integer n => grow (.integers (xs.push n)) false
  | .texts xs, .text s => grow (.texts (xs.push s)) false
  | _, value => throw (c.definition.mismatch (.value value.kind))

def pushSteps (value : Value) : InPlace Unit := do
  let c ← get
  MonadExcept.ofExcept (c.definition.check value)
  storeSteps value

def pushInPlace (c : Column) (value : Value) : Outcome Fault Column Unit :=
  let (answer, state) := (pushSteps value).run.run c
  ⟨answer, state⟩

inductive Edit
  | push (value : Value)
  | clear
  | retype (target : Definition)
  | setType (type : ColumnType)
  | setDefault (default : Option Value)
  deriving DecidableEq, Repr

/-- What an edit answers and the column that is in use after it. -/
def Edit.perform (c : Column) : Edit → Outcome Fault Column Unit
  | push value => c.pushInPlace value
  | clear => ⟨.ok (), c.clear⟩
  | retype target => .commit c (c.retyped target)
  | setType type => ⟨.ok (), { c with definition := { c.definition with type } }⟩
  | setDefault default => ⟨.ok (), { c with definition := { c.definition with default } }⟩

/-- The column after a run of edits, whether they are refused or not. -/
def edited (c : Column) (edits : List Edit) : Column :=
  edits.foldl (fun c edit => (edit.perform c).state) c

/-- What an edit that is answered makes of the list of values. -/
def Edit.Maps : Edit → List Value → List Value → Prop
  | push value, before, later => later = before ++ [value]
  | clear, _, later => later = []
  | retype target, before, later => before.mapM target.cast = .ok later
  | setType _, before, later => later = before
  | setDefault _, before, later => later = before

/-- A column as it is made, with the values that it is made with. -/
inductive New : Column → List Value → Prop
  | empty (d : Definition) : New (empty d) []
  | filled {d : Definition} {count : Nat} {value : Value} {c : Column}
      (made : filled d count value = .ok c) : New c (List.replicate count value)

/-- The column is read as the list of its values and as nothing else: the storage and the bitmap
have one length, NULL is read just where the bitmap says so, and what is stored there does not
matter. -/
structure ReadsAsList (c : Column) : Prop where
  aligned : c.nulls.size = c.cells.size
  listed : (List.range c.size).map c.get? = c.values.map some
  outside : ∀ row, c.get? row = none ↔ c.size ≤ row
  marked : ∀ row, c.get? row = some .null ↔ c.nulls[row]? = some true
  unread : ∀ cells : Cells, cells.size = c.cells.size →
    (∀ row, c.nulls[row]? = some false → cells.get? row = c.cells.get? row) →
    ∀ row, ({ c with cells } : Column).get? row = c.get? row

end ColumnStore.Column
