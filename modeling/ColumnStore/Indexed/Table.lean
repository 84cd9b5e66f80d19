import Mathlib.Data.List.Destutter
import ColumnStore.Table.Insert
import ColumnStore.Table.Schema
import ColumnStore.Table.Select

/-!
# Tables by position

The operations on columns and tables once more, with every access to a list by the position that it
uses: a row of a column, a column of a table, a slot of a new row, a default of a new column, the
first part of a list. There is no result where a position is outside its list.
-/

namespace ColumnStore

/-- A computation that is refused, gives a value, or makes an access out of range. -/
abbrev Indexed := ExceptT Fault Option

namespace Indexed

variable {α : Type}

/-- A computation that makes no access by position. -/
def lift (x : Except Fault α) : Indexed α := ExceptT.mk (some x)

/-- An access that finds something or is out of range. -/
def access (found : Option α) : Indexed α := ExceptT.mk (found.map .ok)

def modify (xs : List α) (i : Nat) (f : α → α) : Indexed (List α) := do
  let a ← access xs[i]?
  return xs.set i (f a)

def remove (xs : List α) (i : Nat) : Indexed (List α) := do
  let _ ← access xs[i]?
  return xs.eraseIdx i

/-- The elements before a position, which may be the end of the list. -/
def before (xs : List α) (i : Nat) : Indexed (List α) :=
  access (if i ≤ xs.length then some (xs.take i) else none)

end Indexed

open Indexed

namespace Column

/-- The value in a row, read from the bitmap and the storage. -/
def getAt (c : Column) (row : Nat) : Indexed (Option Value) :=
  if c.size ≤ row then return none
  else do
    if ← access c.nulls[row]? then return some .null
    match c.cells with
    | .integers xs => return some (.integer (← access xs[row]?))
    | .texts xs => return some (.text (← access xs[row]?))

/-- A new column under the target's name and type, filled row by row. -/
def retypedAt (c : Column) (target : Definition) : Indexed Column := do
  let default ← lift (target.castDefault c.definition.default)
  let target := { target with default }
  (List.range c.size).foldlM (fun column row => do
    let value := (← c.getAt row).getD .null
    lift (do column.push (← target.cast value))) (empty target)

end Column

namespace Table

/-! ## Rows -/

/-- Puts each literal into the slot of its column. A slot is filled only once. -/
def fillSlots (t : Table) (names : List String) :
    List (Option Literal) → List (String × Literal) → Indexed (List (Option Literal))
  | slots, [] => return slots
  | slots, (name, literal) :: rest => do
    let i ← lift (t.position name)
    if (← access slots[i]?).isSome then throw (.columnMismatch t.name t.columnNames names)
    t.fillSlots names (← modify slots i fun _ => some literal) rest

def insertAt (t : Table) (names : List String) (literals : List Literal) :
    Option (Outcome Fault Table Unit) :=
  if names.length ≠ literals.length then
    some ⟨.error (.columnCountMismatch t.name names.length literals.length), t⟩
  else do
    match ← (t.fillSlots names (.replicate t.columns.length none) (names.zip literals)).run with
    | .error e => return ⟨.error e, t⟩
    | .ok slots =>
      let expanded := (slots.zip t.columns).map fun (slot, c) => slot.getD (omitted c)
      return t.insertRow t.columnNames expanded

def selectAt (t : Table) (projection : Projection) : Indexed QueryResult := do
  let chosen ← match projection with
    | .all => pure (List.range t.columns.length)
    | .columns names => lift (names.mapM t.position)
  let rows ← (List.range t.rowCount).mapM fun row => chosen.mapM fun i => do
    let c ← access t.columns[i]?
    return (← c.getAt row).getD .null
  let columns ← chosen.mapM fun i => do
    let c ← access t.columns[i]?
    return c.definition.name
  return ⟨columns, rows⟩

/-! ## Columns -/

/-- Checks the new definition at a position, also against those before it. -/
def checkNewColumnAt (existing new : List Column.Definition) (d : Column.Definition) (i : Nat) :
    Indexed Unit := do
  lift (checkName .column d.name)
  lift d.type.check
  if let some value := d.default then lift (d.check value)
  let batch ← before new i
  if existing.any (·.isNamed d.name) || batch.any (·.isNamed d.name) then
    throw (.alreadyExists .column d.name)

def checkNewColumnsAt (existing new : List Column.Definition) (table : String) : Indexed Unit := do
  if new.isEmpty then throw (.emptySchema table)
  new.zipIdx.forM fun (d, i) => checkNewColumnAt existing new d i

def addColumnsAt (t : Table) (new : List Column.Definition) (defaults : Option (List Literal)) :
    Indexed Table := do
  checkNewColumnsAt t.definitions new t.name
  if let some literals := defaults then
    if literals.length ≠ new.length then
      throw (.columnCountMismatch t.name new.length literals.length)
  let added ← new.zipIdx.mapM fun (d, i) =>
    match defaults with
    | none => lift (Column.filled d t.rowCount d.zeroValue)
    | some literals => do
      let literal ← access literals[i]?
      lift (columnWithDefault t.rowCount d literal)
  return { t with columns := t.columns ++ added }

/-- Removes columns, the highest position first so that the lower ones stay valid. -/
def removeColumnsAt (t : Table) (names : List String) : Indexed Table := do
  let positions ← lift (names.mapM t.position)
  let doomed := positions.mergeSort.destutter (· ≠ ·)
  if doomed.length = t.columns.length then throw (.emptySchema t.name)
  let columns ← doomed.reverse.foldlM Indexed.remove t.columns
  return { t with columns }

def renameColumnAt (t : Table) (old new : String) : Indexed Table := do
  let i ← lift (t.position old)
  lift (checkName .column new)
  if (t.position? new).any (· != i) then throw (.alreadyExists .column new)
  let columns ← modify t.columns i fun c =>
    { c with definition := { c.definition with name := new } }
  return { t with columns }

def modifyColumnsAt (t : Table) (definitions : List Column.Definition) : Indexed Table := do
  let names := definitions.map (·.name)
  let targets ← lift (names.mapM t.position)
  targets.zipIdx.forM fun (target, i) => do
    if (← before targets i).contains target then
      throw (.columnMismatch t.name t.columnNames names)
  let replacements ← (targets.zip definitions).mapM fun (i, d) => do
    lift d.type.check
    let current ← access t.columns[i]?
    return (i, ← current.retypedAt ⟨current.definition.name, d.type, none⟩)
  let columns ← replacements.foldlM (fun columns (i, c) => modify columns i fun _ => c) t.columns
  return { t with columns }

def withDefaultAt (t : Table) (i : Nat) (default : Option Value) : Indexed Table := do
  let columns ← modify t.columns i fun c =>
    { c with definition := { c.definition with default } }
  return { t with columns }

def setDefaultAt (t : Table) (name : String) (literal : Literal) : Indexed Table := do
  let i ← lift (t.position name)
  if literal = .default then
    let c ← access t.columns[i]?
    throw (.typeMismatch name c.definition.type .defaultKeyword)
  let c ← access t.columns[i]?
  let value ← lift (c.definition.convert literal)
  t.withDefaultAt i (some value)

def dropDefaultAt (t : Table) (name : String) : Indexed Table := do
  let i ← lift (t.position name)
  let c ← access t.columns[i]?
  if c.definition.default.isNone then throw (.noDefault c.definition.name)
  t.withDefaultAt i none

end Table

end ColumnStore
