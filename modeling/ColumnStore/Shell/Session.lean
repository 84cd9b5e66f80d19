import ColumnStore.Shell

/-!
# A session as a fold

What a session prints, said without its loop. The lines before the first one that ends the session
are its body. Each of them carries the catalog on to the next and prints its turn: a prompt and,
unless it is blank, the report on its statement. The lines of an input are also given here as they
stand, with their newlines, so that some of them can be taken out of it.
-/

namespace ColumnStore.Shell

/-- The statement on a line, without the white space around it. A blank line has none. -/
def statement? (line : String) : Option String :=
  let input := Text.trim line.toList
  if input.isEmpty then none else some (String.ofList input)

/-- A line ends the session when it is no text or asks to quit. -/
def ends : Option String → Bool
  | none => true
  | some line => isQuit (Text.trim line.toList)

def body : List (Option String) → List String
  | [] | none :: _ => []
  | some line :: rest => if ends (some line) then [] else line :: body rest

/-- The first line that ends the session says how. -/
def endingOf (lines : List (Option String)) : Ending :=
  match lines.find? ends with
  | some none => .unreadableLine
  | _ => .finished

def carry (c : Catalog) (line : String) : Catalog :=
  match statement? line with
  | none => c
  | some statement => (c.run statement).state

def timing (options : Options) : List Event := if options.timing then [.elapsed] else []

def turn (options : Options) (c : Catalog) (line : String) : List Event :=
  prompt c ::
    match statement? line with
    | none => []
    | some statement => report (c.run statement).answer :: timing options

def turns (options : Options) (c : Catalog) : List String → List (List Event)
  | [] => []
  | line :: rest => turn options c line :: turns options (carry c line) rest

/-- What is printed and how it ends, for the lines from here on. -/
def folded (options : Options) (c : Catalog) (lines : List (Option String)) : Transcript where
  events := (turns options c (body lines)).flatten ++ [prompt ((body lines).foldl carry c)]
  ending := endingOf lines

/-! ## Taking lines out -/

/-- The lines of an input with the newlines that end them. The last one may lack it. -/
def rawLines : List UInt8 → List (List UInt8)
  | [] => []
  | byte :: rest =>
    if byte = 10 then [byte] :: rawLines rest
    else
      match rawLines rest with
      | [] => [[byte]]
      | line :: lines => (byte :: line) :: lines

/-- What stands at the other positions. -/
def without {α : Type} (doomed : Nat → Bool) : List α → List α
  | [] => []
  | a :: rest =>
    if doomed 0 then without (fun i => doomed (i + 1)) rest
    else a :: without (fun i => doomed (i + 1)) rest

/-- A line that is blank, or whose statement is refused by this catalog. -/
def Idle (c : Catalog) (line : String) : Prop :=
  ∀ statement, statement? line = some statement → ∃ e, (c.run statement).answer = .error e

/-- Every doomed line is there and idle when its turn comes. -/
def Removable (c : Catalog) (lines : List String) (doomed : Nat → Bool) : Prop :=
  ∀ i, doomed i = true → ∃ line, lines[i]? = some line ∧ Idle ((lines.take i).foldl carry c) line

end ColumnStore.Shell
