import ColumnStore.Main
import ColumnStore.Shell
import ColumnStore.Statement.Printer
import ColumnStore.Proofs.Positions
import ColumnStore.Proofs.Column.Sound
import ColumnStore.Proofs.Table.Sound
import ColumnStore.Proofs.Table.Change
import ColumnStore.Proofs.Table.WellFormed
import ColumnStore.Catalog.Call
import ColumnStore.Proofs.Database.WellFormed
import ColumnStore.Proofs.Catalog.WellFormed
import ColumnStore.Table.Rows
import ColumnStore.Proofs.Table.Rows
import ColumnStore.Proofs.Table.Columns
import ColumnStore.Proofs.Table.Refinement
import ColumnStore.Proofs.Statement.Reading
import ColumnStore.Proofs.Statement.Clauses
import ColumnStore.Proofs.Statement.Grammar
import ColumnStore.Proofs.Token.Cover
import ColumnStore.Proofs.Statement.Printing
import ColumnStore.Proofs.Table.Insert
import ColumnStore.Proofs.Table.Textual
import ColumnStore.Proofs.Catalog.Textual
import ColumnStore.Proofs.Catalog.Directory
import ColumnStore.Proofs.Database.Locality
import ColumnStore.Proofs.Catalog.Locality
import ColumnStore.Proofs.Catalog.Shared
import ColumnStore.Shell.Session
import ColumnStore.Proofs.Shell
import ColumnStore.Indexed.Scanner
import ColumnStore.Proofs.Indexed.Scanner
import ColumnStore.Indexed.Cursor
import ColumnStore.Proofs.Indexed.Cursor
import ColumnStore.Proofs.Indexed.Statement
import ColumnStore.Indexed.Table
import ColumnStore.Proofs.Indexed.Table
import ColumnStore.Proofs.Indexed.Columns
import ColumnStore.Indexed.Catalog
import ColumnStore.Proofs.Indexed.Catalog
import ColumnStore.Catalog.Dispatch
import ColumnStore.Proofs.Catalog.Dispatch
import ColumnStore.Proofs.Catalog.Tables
import ColumnStore.Table.Partial
import ColumnStore.Proofs.Table.Partial
import ColumnStore.Table.Retyping
import ColumnStore.Proofs.Column.Canonical
import ColumnStore.Proofs.Column.Recast
import ColumnStore.Proofs.Table.Retyping
import ColumnStore.Proofs.Table.Canonical
import ColumnStore.Proofs.Table.IntegerTexts
import ColumnStore.Proofs.Column.Numeral
import ColumnStore.Table.Addition
import ColumnStore.Proofs.Table.Addition
import ColumnStore.Proofs.Table.Removal
import ColumnStore.Proofs.Table.Batches
import ColumnStore.Proofs.Table.Readers
import ColumnStore.Proofs.Token.Stretch
import ColumnStore.Proofs.Token.Failure
import ColumnStore.Token.Style
import ColumnStore.Proofs.Token.Style
import ColumnStore.Proofs.Statement.Alike
import ColumnStore.Statement.Offence
import ColumnStore.Proofs.Statement.Prediction
import ColumnStore.Proofs.Statement.Predicted
import ColumnStore.Proofs.Statement.Offence
import ColumnStore.Proofs.Text.Fold
import ColumnStore.Table.Spelling
import ColumnStore.Proofs.Column.Spelling
import ColumnStore.Proofs.Table.Spelling
import ColumnStore.Proofs.Table.Strict
import ColumnStore.Proofs.Table.Renaming
import ColumnStore.Proofs.Catalog.Renaming
import ColumnStore.Column.Editing
import ColumnStore.Proofs.Column.Editing
import ColumnStore.Statement.Course
import ColumnStore.Proofs.Statement.Course
import ColumnStore.Proofs.Statement.Progress
