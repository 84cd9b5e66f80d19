import ColumnStore.Catalog.Execute
import ColumnStore.Shell.Options

/-!
# The shell

The shell prompts, reads a line, executes it as one statement and prints the reply or the error.
White space around a line is dropped, a blank line only brings the next prompt, and `quit` in any
ASCII letter case ends the session, as does the end of the input. A line that is no UTF-8 text
ends it with a failure. What is printed is a list of events, since the time that a statement took
is known only when it runs.
-/

namespace ColumnStore.Shell

inductive Event
  | text (s : String)
  | elapsed
  deriving DecidableEq, Repr

/-- The printed form of an event, given how long the statement took in milliseconds. -/
def Event.render (time : String) : Event → String
  | text s => s
  | elapsed => "(" ++ time ++ " ms)\n"

inductive Ending
  | finished
  | unreadableLine
  | badArguments
  deriving DecidableEq, Repr

def Ending.exitCode : Ending → UInt32
  | finished => 0
  | unreadableLine => 1
  | badArguments => 2

structure Transcript where
  events : List Event
  ending : Ending
  deriving DecidableEq, Repr

def Transcript.render (time : String) (t : Transcript) : String :=
  String.join (t.events.map (·.render time))

def greeting : Event := .text "minirel shell (type 'quit' to stop)\n"

def prompt (c : Catalog) : Event :=
  match c.current with
  | some name => .text ("minirel:" ++ name ++ "> ")
  | none => .text "minirel> "

def report : Except Rejection Reply → Event
  | .ok reply => .text (reply.render ++ "\n")
  | .error e => .text ("error: " ++ e.message ++ "\n")

def isQuit (line : List Char) : Bool := line.map Char.toLower == ['q', 'u', 'i', 't']

/-- What a line prints and the catalog it leaves, or nothing when it ends the session. -/
def respond? (options : Options) (c : Catalog) (line : String) : Option (List Event × Catalog) :=
  let input := Text.trim line.toList
  if input.isEmpty then some ([], c)
  else if isQuit input then none
  else
    let o := c.run (String.ofList input)
    some (report o.answer :: if options.timing then [.elapsed] else [], o.state)

/-- The session from here on. A line is missing where its bytes are no UTF-8 text. -/
def converse (options : Options) (c : Catalog) : List (Option String) → Transcript
  | [] => ⟨[prompt c], .finished⟩
  | none :: _ => ⟨[prompt c], .unreadableLine⟩
  | some line :: rest =>
    match respond? options c line with
    | none => ⟨[prompt c], .finished⟩
    | some (events, c') =>
      let later := converse options c' rest
      ⟨prompt c :: events ++ later.events, later.ending⟩

/-- The lines of an input. The last one need not end in a newline. -/
def splitLines : List UInt8 → List (List UInt8)
  | [] => []
  | byte :: rest =>
    if byte = 10 then [] :: splitLines rest
    else
      match splitLines rest with
      | [] => [[byte]]
      | line :: lines => (byte :: line) :: lines

def decode? (line : List UInt8) : Option String := String.fromUTF8? ⟨line.toArray⟩

/-- The whole session of a shell that is started with these arguments on this input. -/
def session (arguments : List String) (input : List UInt8) : Transcript :=
  match Options.ofArguments? arguments with
  | none => ⟨[], .badArguments⟩
  | some options =>
    let later := converse options .empty ((splitLines input).map decode?)
    ⟨greeting :: later.events, later.ending⟩

end ColumnStore.Shell
