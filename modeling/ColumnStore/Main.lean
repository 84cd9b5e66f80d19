import ColumnStore.Shell

/-!
# The shell as a program

Reads the standard input line by line, so that each prompt appears before its line is read, and
prints what the shell answers.
-/

namespace ColumnStore.Shell

/-- The bytes of the next line without its newline, or nothing at the end of the input. -/
partial def readLine? (input : IO.FS.Stream) (read : ByteArray) : IO (Option ByteArray) := do
  let byte ← input.read 1
  match byte.data[0]? with
  | none => return if read.isEmpty then none else some read
  | some b => if b = 10 then return some read else readLine? input (read.push b)

/-- Milliseconds with three decimals. -/
def milliseconds (nanoseconds : Nat) : String :=
  let microseconds := (nanoseconds + 500) / 1000
  let fraction := toString (1000 + microseconds % 1000)
  toString (microseconds / 1000) ++ "." ++ String.ofList (fraction.toList.drop 1)

partial def interact (options : Options) (c : Catalog) : IO UInt32 := do
  let output ← IO.getStdout
  output.putStr ((prompt c).render "")
  output.flush
  match ← readLine? (← IO.getStdin) .empty with
  | none => return Ending.finished.exitCode
  | some bytes =>
    match String.fromUTF8? bytes with
    | none => return Ending.unreadableLine.exitCode
    | some line =>
      let started ← IO.monoNanosNow
      match respond? options c line with
      | none => return Ending.finished.exitCode
      | some (events, c') =>
        for event in events do
          output.putStr (event.render (milliseconds ((← IO.monoNanosNow) - started)))
        interact options c'

end ColumnStore.Shell

def main (arguments : List String) : IO UInt32 := do
  match ColumnStore.Shell.Options.ofArguments? arguments with
  | none =>
    (← IO.getStderr).putStr "usage: [--log-level LEVEL] [--timing]\n"
    return ColumnStore.Shell.Ending.badArguments.exitCode
  | some options =>
    (← IO.getStdout).putStr (ColumnStore.Shell.greeting.render "")
    ColumnStore.Shell.interact options .empty
