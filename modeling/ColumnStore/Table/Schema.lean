import ColumnStore.Table

/-!
# Changing the columns of a table

Every change is decided as a whole: a list of columns is added, removed or given new types
completely or not at all. New definitions are checked one after the other, each against the
existing columns and the definitions before it.
-/

namespace ColumnStore.Table

/-- Whether definitions may join columns that have the definitions `taken`. -/
def checkEach (taken : List Column.Definition) : List Column.Definition → Except Fault Unit
  | [] => .ok ()
  | d :: rest => do
    checkName .column d.name
    d.type.check
    if let some value := d.default then d.check value
    if taken.any (·.isNamed d.name) then throw (.alreadyExists .column d.name)
    checkEach (taken ++ [d]) rest

/-- Whether definitions may join existing columns of a table; there must be at least one. -/
def checkNewColumns (existing new : List Column.Definition) (table : String) :
    Except Fault Unit :=
  if new.isEmpty then .error (.emptySchema table) else checkEach existing new

/-- A column for a table with `count` rows whose default and fill is the literal. -/
def columnWithDefault (count : Nat) (d : Column.Definition) (literal : Literal) :
    Except Fault Column := do
  let value ← d.convert literal
  Column.filled { d with default := some value } count value

/-- Appends columns and fills the existing rows: from the defaults if a list of them is given,
which are then stored, and else with zero values. -/
def addColumns (t : Table) (new : List Column.Definition) (defaults : Option (List Literal)) :
    Except Fault Table := do
  checkNewColumns t.definitions new t.name
  let added ← match defaults with
    | none => new.mapM fun d => Column.filled d t.rowCount d.zeroValue
    | some literals =>
      if literals.length ≠ new.length then
        throw (.columnCountMismatch t.name new.length literals.length)
      else (new.zip literals).mapM fun (d, literal) => columnWithDefault t.rowCount d literal
  return { t with columns := t.columns ++ added }

/-- Removes columns, of which at least one has to stay. Naming one twice is no fault. -/
def removeColumns (t : Table) (names : List String) : Except Fault Table := do
  let doomed ← names.mapM t.position
  let kept := (t.columns.zipIdx.filter fun (_, i) => !doomed.contains i).map (·.1)
  if kept.isEmpty then throw (.emptySchema t.name)
  return { t with columns := kept }

/-- Gives a column a new name, which may differ from the old one in letter case alone. -/
def renameColumn (t : Table) (old new : String) : Except Fault Table := do
  let i ← t.position old
  checkName .column new
  if (t.position? new).any (· != i) then throw (.alreadyExists .column new)
  return { t with columns := t.columns.modify i fun c =>
    { c with definition := { c.definition with name := new } } }

/-- The column that a definition names, brought to the type of that definition. -/
def modifiedColumn (t : Table) (d : Column.Definition) : Except Fault Column := do
  d.type.check
  let current ← t.column d.name
  current.retyped ⟨current.definition.name, d.type, none⟩

/-- Gives columns new types. Every stored value and default has to cast. -/
def modifyColumns (t : Table) (definitions : List Column.Definition) : Except Fault Table := do
  let names := definitions.map (·.name)
  let targets ← names.mapM t.position
  if ¬ targets.Nodup then throw (.columnMismatch t.name t.columnNames names)
  let modified ← definitions.mapM t.modifiedColumn
  return { t with columns := (targets.zip modified).foldl (fun cs (i, c) => cs.set i c) t.columns }

def withDefault (t : Table) (position : Nat) (default : Option Value) : Table :=
  { t with columns := t.columns.modify position fun c =>
    { c with definition := { c.definition with default } } }

/-- Stores a default. The DEFAULT literal is none. -/
def setDefault (t : Table) (name : String) (literal : Literal) : Except Fault Table := do
  let i ← t.position name
  let c ← t.column name
  if literal = .default then throw (.typeMismatch name c.definition.type .defaultKeyword)
  let value ← c.definition.convert literal
  return t.withDefault i (some value)

def dropDefault (t : Table) (name : String) : Except Fault Table := do
  let i ← t.position name
  let c ← t.column name
  if c.definition.default.isNone then throw (.noDefault c.definition.name)
  return t.withDefault i none

end ColumnStore.Table
