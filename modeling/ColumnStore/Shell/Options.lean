import ColumnStore.Text.Decimal

/-!
# Shell options

The command line takes the switch `--timing` and a log level, each at most once, in any order.
The level is checked but changes nothing that is printed on the standard output. A closing `--`
is allowed; any other argument is refused.

One limit: the texts about the program itself are not kept here, so `--help`, `-h`, `--version` and
`-V` are refused like any other argument, with exit code 2. A command line that has these texts
prints them and ends with exit code 0.
-/

namespace ColumnStore.Shell

structure Options where
  timing : Bool
  deriving DecidableEq, Repr

namespace Options

def levelNames : List String := ["trace", "debug", "info", "warn", "error"]

/-- A level is one of the names in any ASCII letter case or a number from 1 to 5. -/
def isLevel (s : String) : Bool :=
  levelNames.contains (String.ofList (s.toList.map Char.toLower)) ||
    match Decimal.readUInt32? s with
    | some n => 1 ≤ n && n ≤ 5
    | none => false

/-- The level of an argument that joins it to the option by an equals sign. -/
def joinedLevel? (argument : String) : Option String :=
  let option := "--log-level=".toList
  if option.isPrefixOf argument.toList then
    some (String.ofList (argument.toList.drop option.length))
  else none

def read? (levelGiven timing : Bool) : List String → Option Options
  | [] | ["--"] => some ⟨timing⟩
  | "--timing" :: rest => if timing then none else read? levelGiven true rest
  | "--log-level" :: level :: rest =>
    if levelGiven || !isLevel level then none else read? true timing rest
  | argument :: rest =>
    match joinedLevel? argument with
    | some level => if levelGiven || !isLevel level then none else read? true timing rest
    | none => none

def ofArguments? (arguments : List String) : Option Options := read? false false arguments

end Options

end ColumnStore.Shell
