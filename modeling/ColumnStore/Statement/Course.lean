import ColumnStore.Indexed.Cursor

/-!
# Courses of parsers

A course lays out what a parser does with the tokens: which of them it looks at, which it takes,
where it fails, and what it does in rounds. An end of the input is never taken. A course is walked
over a whole list of tokens with a cursor, which moves on as long as another token is left. The
trail of a walk holds every move and every round that another follows, also of a parser that fails.
-/

namespace ColumnStore

/-- What happens on a walk. -/
inductive Step
  /-- The cursor is moved on, from one position to another or to the same. -/
  | move (start stop : Nat)
  /-- A round is over, which took the cursor from one position to another, and the next begins. -/
  | round (start stop : Nat)
  deriving DecidableEq, Repr

def Step.isMove : Step → Bool
  | move .. => true
  | round .. => false

/-- Where the cursor is, and what has happened so far. -/
structure Trail where
  position : Nat
  steps : List Step
  deriving DecidableEq, Repr

/-- A parser by position that keeps its trail. There is no result for a read outside the list and
for a round that would be made again without end. -/
abbrev Walk := ReaderT (List Token) (ExceptT SyntaxError (StateT Trail Option))

namespace Walk

open SyntaxError (Expected)

def current : Walk Token := fun tokens trail =>
  (tokens[trail.position]?).map fun token => (.ok token, trail)

/-- Moves to the next token, and stays at the last one. -/
def advance : Walk Unit := fun tokens trail =>
  (Cursor.lastPosition? tokens).map fun last =>
    let stop := if trail.position < last then trail.position + 1 else trail.position
    (.ok (), ⟨stop, trail.steps ++ [.move trail.position stop]⟩)

def fail {α : Type} (expected : Expected) : Walk α := do
  throw (.atToken expected (← current))

/-- Takes the token at the cursor if `choose` has a value for it, and otherwise fails at it. -/
def accept {α : Type} (choose : Token → Except Expected α) : Walk α := do
  match choose (← current) with
  | .error expected => fail expected
  | .ok a =>
    advance
    return a

/-- Takes the token at the cursor and goes on, or fails at it, as has been chosen. -/
def follow {α : Type} : (choice : Except Expected (Parser α)) →
    (∀ p, choice = .ok p → Walk α) → Walk α
  | .error expected, _ => fail expected
  | .ok p, next => do
    advance
    next p rfl

/-- One round after another until a round is the last, and what all of them found. -/
def loop {α : Type} (round : Walk (List α × Bool)) (tokens : List Token) (trail : Trail) :
    Option (Except SyntaxError (List α) × Trail) :=
  match round tokens trail with
  | none => none
  | some (.error e, left) => some (.error e, left)
  | some (.ok (found, false), left) => some (.ok found, left)
  | some (.ok (found, true), left) =>
    if tokens.length - left.position < tokens.length - trail.position then
      let next := ⟨left.position, left.steps ++ [.round trail.position left.position]⟩
      (loop round tokens next).map fun (result, finish) => (result.map (found ++ ·), finish)
    else none
termination_by tokens.length - trail.position

end Walk

namespace Parser

open SyntaxError (Expected)

/-- One round after another, where a round that another follows has taken a token. -/
structure Repeats {α : Type} (round : Parser (List α × Bool)) (p : Parser (List α)) : Prop where
  shorter : ∀ {tokens found rest}, round.run tokens = .ok ((found, true), rest) →
    rest.length < tokens.length
  unfolded : ∀ tokens, p.run tokens = (do
    let (found, more) ← round
    if more then return found ++ (← p) else return found : Parser (List α)).run tokens

/-- How a parser goes over the tokens. Those that it takes are no ends of the input. -/
inductive Course : {α : Type} → Parser α → Type 1
  | pure {α : Type} (a : α) : Course (pure a)
  | bind {α β : Type} {p : Parser α} {f : α → Parser β} (first : Course p)
      (later : ∀ a, Course (f a)) : Course (p >>= f)
  | ite {α : Type} {p q : Parser α} (condition : Prop) [Decidable condition] (yes : Course p)
      (no : Course q) : Course (if condition then p else q)
  | peek : Course peek
  | position : Course position
  | fail {α : Type} (expected : Expected) : Course (fail expected : Parser α)
  | failWith {α : Type} (e : SyntaxError) : Course (failWith e : Parser α)
  | accept {α : Type} {choose : Token → Except Expected α}
      (going : ∀ text position a, choose ⟨⟨.endOfInput, text⟩, position⟩ ≠ .ok a) :
      Course (accept choose)
  | branch {α : Type} {choose : Token.Kind → Except Expected (Parser α)}
      (going : ∀ p, choose .endOfInput ≠ .ok p)
      (next : ∀ kind p, choose kind = .ok p → Course p) : Course (branch choose)
  | loop {α : Type} {round : Parser (List α × Bool)} {p : Parser (List α)}
      (repeats : Repeats round p) (each : Course round) : Course p

/-- The walk that a course describes. -/
def Course.walk : {α : Type} → {p : Parser α} → Course p → Walk α
  | _, _, .pure a => return a
  | _, _, .bind first later => first.walk >>= fun a => (later a).walk
  | _, _, @Course.ite _ _ _ condition _ yes no => if condition then yes.walk else no.walk
  | _, _, .peek => return (← Walk.current).kind
  | _, _, .position => return (← Walk.current).position
  | _, _, .fail expected => Walk.fail expected
  | _, _, .failWith e => throw e
  | _, _, @Course.accept _ choose _ => Walk.accept choose
  | _, _, @Course.branch _ choose _ next => do
    let token ← Walk.current
    Walk.follow (choose token.kind) fun p chosen => (next token.kind p chosen).walk
  | .(List α), _, @Course.loop α _ _ _ each => Walk.loop each.walk

end Parser

end ColumnStore
