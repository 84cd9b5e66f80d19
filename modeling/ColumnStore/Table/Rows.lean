import ColumnStore.Table.Call

/-!
# Tables by rows

The other layout: a list of definitions and a list of rows, each with one value for every
definition. The calls on a table are repeated here on this layout, where a row is appended as a
whole and a column is one position of every row. There are no storage kinds, no bitmaps and no
count beside the rows, and every operation is refused before it changes anything.
-/

namespace ColumnStore

structure RowTable where
  name : String
  definitions : List Column.Definition
  rows : List Row
  deriving DecidableEq, Repr

namespace RowTable

def columnNames (t : RowTable) : List String := t.definitions.map (·.name)

def position? (t : RowTable) (name : String) : Option Nat :=
  t.definitions.findIdx? (·.isNamed name)

def position (t : RowTable) (name : String) : Except Fault Nat :=
  match t.position? name with
  | some i => .ok i
  | none => .error (.notFound .column name)

/-- The first definition of that name. -/
def definition (t : RowTable) (name : String) : Except Fault Column.Definition :=
  match t.definitions.find? (·.isNamed name) with
  | some d => .ok d
  | none => .error (.notFound .column name)

/-! ## Rows -/

/-- Appends the row of the converted literals. -/
def store (t : RowTable) (literals : List Literal) : Except Fault RowTable := do
  let row ← (t.definitions.zip literals).mapM fun (d, literal) => d.convert literal
  return { t with rows := t.rows ++ [row] }

def insertRow (t : RowTable) (names : List String) (literals : List Literal) :
    Except Fault RowTable :=
  let inOrder := (t.definitions.zip names).all fun (d, name) => d.isNamed name
  if names.length ≠ t.definitions.length then
    .error (.columnCountMismatch t.name t.definitions.length names.length)
  else if !inOrder then
    .error (.columnMismatch t.name t.columnNames names)
  else if literals.length ≠ t.definitions.length then
    .error (.columnCountMismatch t.name t.definitions.length literals.length)
  else t.store literals

def assign (t : RowTable) (names : List String) :
    List (Nat × Literal) → List (String × Literal) → Except Fault (List (Nat × Literal)) :=
  Table.assignEach t.position (.columnMismatch t.name t.columnNames names)

/-- A position without a literal takes the stored default, or NULL where there is none. -/
def insert (t : RowTable) (names : List String) (literals : List Literal) :
    Except Fault RowTable := do
  if names.length ≠ literals.length then
    throw (.columnCountMismatch t.name names.length literals.length)
  let assigned ← t.assign names [] (names.zip literals)
  t.store (t.definitions.zipIdx.map fun (d, i) =>
    (assigned.lookup i).getD (if d.default.isSome then .default else .null))

def truncate (t : RowTable) : RowTable := { t with rows := [] }

def select (t : RowTable) : Projection → Except Fault QueryResult
  | .all => .ok ⟨t.columnNames, t.rows⟩
  | .columns names => do
    let chosen ← names.mapM t.position
    return ⟨chosen.filterMap (t.columnNames[·]?), t.rows.map fun row => chosen.filterMap (row[·]?)⟩

/-! ## Columns -/

/-- What the rows that are there already get in a new column without a default. -/
def zero : ColumnType → Value
  | .integer => .integer 0
  | .varchar _ => .text ""

/-- Appends definitions, and the same cells to each row: the given defaults, which are then
stored, or else the zero values. -/
def addColumns (t : RowTable) (new : List Column.Definition) (defaults : Option (List Literal)) :
    Except Fault RowTable := do
  Table.checkNewColumns t.definitions new t.name
  match defaults with
  | none =>
    return { t with
      definitions := t.definitions ++ new
      rows := t.rows.map (· ++ new.map fun d => zero d.type) }
  | some literals =>
    if literals.length ≠ new.length then
      throw (.columnCountMismatch t.name new.length literals.length)
    let values ← (new.zip literals).mapM fun (d, literal) => d.convert literal
    return { t with
      definitions := t.definitions ++
        List.zipWith (fun d value => { d with default := some value }) new values
      rows := t.rows.map (· ++ values) }

/-- The entries of a list whose positions are not among the given ones. -/
def without {α : Type} (doomed : List Nat) (xs : List α) : List α :=
  (xs.zipIdx.filter fun (_, i) => !doomed.contains i).map (·.1)

def removeColumns (t : RowTable) (names : List String) : Except Fault RowTable := do
  let doomed ← names.mapM t.position
  let kept := without doomed t.definitions
  if kept.isEmpty then throw (.emptySchema t.name)
  return { t with definitions := kept, rows := t.rows.map (without doomed) }

def renameColumn (t : RowTable) (old new : String) : Except Fault RowTable := do
  let i ← t.position old
  checkName .column new
  if (t.position? new).any (· != i) then throw (.alreadyExists .column new)
  return { t with definitions := t.definitions.modify i fun d => { d with name := new } }

/-- Casts the default of one column and then its cell in every row. -/
def retype (t : RowTable) (d : Column.Definition) : Except Fault RowTable := do
  let i ← t.position d.name
  d.type.check
  let current ← t.definition d.name
  let target : Column.Definition := ⟨current.name, d.type, none⟩
  let default ← target.castDefault current.default
  let cells ← t.rows.mapM fun row => target.cast (row[i]?.getD .null)
  return { t with
    definitions := t.definitions.set i { target with default }
    rows := List.zipWith (fun row cell => row.set i cell) t.rows cells }

/-- Retypes one column after the other, once it is known that no column is named twice. -/
def modifyColumns (t : RowTable) (definitions : List Column.Definition) :
    Except Fault RowTable := do
  let names := definitions.map (·.name)
  let targets ← names.mapM t.position
  if ¬ targets.Nodup then throw (.columnMismatch t.name t.columnNames names)
  definitions.foldlM retype t

def withDefault (t : RowTable) (position : Nat) (default : Option Value) : RowTable :=
  { t with definitions := t.definitions.modify position fun d => { d with default } }

def setDefault (t : RowTable) (name : String) (literal : Literal) : Except Fault RowTable := do
  let i ← t.position name
  let d ← t.definition name
  if literal = .default then throw (.typeMismatch name d.type .defaultKeyword)
  let value ← d.convert literal
  return t.withDefault i (some value)

def dropDefault (t : RowTable) (name : String) : Except Fault RowTable := do
  let i ← t.position name
  let d ← t.definition name
  if d.default.isNone then throw (.noDefault d.name)
  return t.withDefault i none

/-! ## Calls -/

/-- Makes a call on a table by rows. -/
def perform (t : RowTable) : Table.Call → Outcome Fault RowTable (Option QueryResult)
  | .insertRow names literals => done (t.insertRow names literals)
  | .insert names literals => done (t.insert names literals)
  | .select projection => ⟨(t.select projection).map some, t⟩
  | .truncate => done (.ok t.truncate)
  | .addColumns new defaults => done (t.addColumns new defaults)
  | .removeColumns names => done (t.removeColumns names)
  | .renameColumn old new => done (t.renameColumn old new)
  | .modifyColumns definitions => done (t.modifyColumns definitions)
  | .setDefault name literal => done (t.setDefault name literal)
  | .dropDefault name => done (t.dropDefault name)
where
  done (new : Except Fault RowTable) : Outcome Fault RowTable (Option QueryResult) :=
    (Outcome.commit t new).map fun _ => none

def after (t : RowTable) (calls : List Table.Call) : RowTable :=
  calls.foldl (fun t call => (t.perform call).state) t

end RowTable

/-- A table read row by row. -/
def Table.byRows (t : Table) : RowTable := ⟨t.name, t.definitions, t.rows⟩

end ColumnStore
