import ColumnStore.Catalog
import ColumnStore.Statement.Parser
import ColumnStore.Token.Lexer

/-!
# Executing statements

A statement is one call on the catalog. The statements that only read are answered by `query?`
as well, which has no answer for any other. A shared catalog is reached through `dispatch`: it
sends reads to `query?`, which can run beside each other, and all else to `execute`.
-/

namespace ColumnStore

inductive Reply
  | done
  | databases (names : List String)
  | tables (names : List String)
  | currentDatabase (name : String)
  | rows (result : QueryResult)
  deriving DecidableEq, Repr

def Reply.render : Reply → String
  | done => "OK"
  | databases names => if names.isEmpty then "no databases" else "\n".intercalate names
  | tables names => if names.isEmpty then "no tables" else "\n".intercalate names
  | currentDatabase name => name
  | rows result => result.render

/-- Why a text was not executed: it has no tokens, is no statement, or was refused. -/
inductive Rejection
  | lexical (e : LexError)
  | grammatical (e : SyntaxError)
  | refused (fault : Fault)
  deriving DecidableEq, Repr

def Rejection.message : Rejection → String
  | lexical e => "lex error: " ++ e.message
  | grammatical e => "syntax error: " ++ e.message
  | refused fault => fault.message

def Statement.ofText (text : String) : Except Rejection Statement :=
  match Token.ofText text with
  | .error e => .error (.lexical e)
  | .ok tokens => (Statement.ofTokens tokens).mapError .grammatical

namespace Catalog

/-- The reply to a statement that only reads. -/
def query? (c : Catalog) : Statement → Option (Except Fault Reply)
  | .showDatabases => some (.ok (.databases c.databaseNames))
  | .showTables => some (c.tableNames.map .tables)
  | .showCurrentDatabase => some (c.currentName.map .currentDatabase)
  | .select table projection => some ((c.select table projection).map .rows)
  | _ => none

def execute (c : Catalog) : Statement → Outcome Fault Catalog Reply
  | .createDatabase name => done (c.createDatabase name)
  | .dropDatabase name => done (c.dropDatabase name)
  | .useDatabase name => done (c.useDatabase name)
  | .leaveDatabase => ⟨.ok .done, c.leaveDatabase⟩
  | .renameDatabase old new => done (c.renameDatabase old new)
  | .showDatabases => ⟨.ok (.databases c.databaseNames), c⟩
  | .showTables => ⟨c.tableNames.map .tables, c⟩
  | .showCurrentDatabase => ⟨c.currentName.map .currentDatabase, c⟩
  | .createTable name columns => done (c.createTable name columns)
  | .dropTable name => done (c.dropTable name)
  | .renameTable old new => done (c.renameTable old new)
  | .truncateTable table => done (c.truncateTable table)
  | .insert table columns values => done (c.insert table columns values)
  | .addColumns table columns defaults => done (c.addColumns table columns defaults)
  | .removeColumns table columns => done (c.removeColumns table columns)
  | .renameColumn table old new => done (c.renameColumn table old new)
  | .modifyColumns table columns => done (c.modifyColumns table columns)
  | .setDefault table column value => done (c.setDefault table column value)
  | .dropDefault table column => done (c.dropDefault table column)
  | .select table projection => ⟨(c.select table projection).map .rows, c⟩
where
  done (o : Outcome Fault Catalog Unit) : Outcome Fault Catalog Reply := o.map fun _ => .done

/-- Executes a statement on a shared catalog. There is no outcome when a read has no answer. -/
def dispatch? (c : Catalog) (s : Statement) : Option (Outcome Fault Catalog Reply) :=
  if s.isReadOnly then (c.query? s).map (⟨·, c⟩) else some (c.execute s)

/-- Executes the statement that a text writes. -/
def run (c : Catalog) (text : String) : Outcome Rejection Catalog Reply :=
  match Statement.ofText text with
  | .error e => ⟨.error e, c⟩
  | .ok s => (c.execute s).mapError .refused

/-- Executes the statement that a text writes on a shared catalog. -/
def runShared? (c : Catalog) (text : String) : Option (Outcome Rejection Catalog Reply) :=
  match Statement.ofText text with
  | .error e => some ⟨.error e, c⟩
  | .ok s => (c.dispatch? s).map (·.mapError .refused)

end Catalog

end ColumnStore
