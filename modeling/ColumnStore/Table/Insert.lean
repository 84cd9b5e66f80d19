import ColumnStore.Outcome
import ColumnStore.Table

/-!
# Inserting rows

All literals are converted before anything is stored. The values are then pushed column by
column; a push can be refused only when a stored default or the storage kind does not fit its
definition, and then the columns on the left have already grown while the row is not counted.
-/

namespace ColumnStore.Table

/-- Pushes one value to each column from left to right, up to the first that refuses. -/
def pushEach : List Column → List Value → Outcome Fault (List Column) Unit
  | c :: cs, v :: vs =>
    match c.push v with
    | .error e => ⟨.error e, c :: cs⟩
    | .ok pushed =>
      let others := pushEach cs vs
      ⟨others.answer, pushed :: others.state⟩
  | cs, _ => ⟨.ok (), cs⟩

/-- Stores one literal in each column as a new row. -/
def store (t : Table) (literals : List Literal) : Outcome Fault Table Unit :=
  let converted := (t.columns.zip literals).mapM fun (c, literal) => c.definition.convert literal
  match converted with
  | .error e => ⟨.error e, t⟩
  | .ok values =>
    let pushed := pushEach t.columns values
    match pushed.answer with
    | .error e => ⟨.error e, { t with columns := pushed.state }⟩
    | .ok () => ⟨.ok (), { t with columns := pushed.state, rowCount := t.rowCount + 1 }⟩

/-- Inserts a row whose names are those of all columns, in their order. -/
def insertRow (t : Table) (names : List String) (literals : List Literal) :
    Outcome Fault Table Unit :=
  let inOrder := (t.columns.zip names).all fun (c, name) => c.definition.isNamed name
  if names.length ≠ t.columns.length then
    ⟨.error (.columnCountMismatch t.name t.columns.length names.length), t⟩
  else if !inOrder then
    ⟨.error (.columnMismatch t.name t.columnNames names), t⟩
  else if literals.length ≠ t.columns.length then
    ⟨.error (.columnCountMismatch t.name t.columns.length literals.length), t⟩
  else t.store literals

/-- Assigns the literals to the positions of their names, from left to right. A name without a
position is refused as the look-up refuses it, and one whose position has its literal already is
refused as `repeated`. -/
def assignEach (position : String → Except Fault Nat) (repeated : Fault) :
    List (Nat × Literal) → List (String × Literal) → Except Fault (List (Nat × Literal))
  | assigned, [] => .ok assigned
  | assigned, (name, literal) :: rest => do
    let i ← position name
    if (assigned.lookup i).isSome then throw repeated
    assignEach position repeated ((i, literal) :: assigned) rest

def assign (t : Table) (names : List String) :
    List (Nat × Literal) → List (String × Literal) → Except Fault (List (Nat × Literal)) :=
  assignEach t.position (.columnMismatch t.name t.columnNames names)

theorem assign_cons (t : Table) (names : List String) (assigned : List (Nat × Literal))
    (name : String) (literal : Literal) (rest : List (String × Literal)) :
    t.assign names assigned ((name, literal) :: rest) =
      (do
        let i ← t.position name
        if (assigned.lookup i).isSome then throw (.columnMismatch t.name t.columnNames names)
        t.assign names ((i, literal) :: assigned) rest) :=
  rfl

/-- What a column takes when the insert leaves it out. -/
def omitted (c : Column) : Literal := if c.definition.default.isSome then .default else .null

/-- Inserts a row from any choice of columns in any order. -/
def insert (t : Table) (names : List String) (literals : List Literal) :
    Outcome Fault Table Unit :=
  if names.length ≠ literals.length then
    ⟨.error (.columnCountMismatch t.name names.length literals.length), t⟩
  else
    match t.assign names [] (names.zip literals) with
    | .error e => ⟨.error e, t⟩
    | .ok assigned =>
      t.store (t.columns.zipIdx.map fun (c, i) => (assigned.lookup i).getD (omitted c))

end ColumnStore.Table
