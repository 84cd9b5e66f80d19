import ColumnStore.Proofs.Indexed.Statement
import ColumnStore.Proofs.Statement.Course
import ColumnStore.Proofs.Statement.Offence

/-!
# The cursor goes forward to the first end of the input

Every clause and every statement has a course, in which the two kinds of lists are rounds that take
a comma before another follows. So the walk over a whole line ends, in a statement or at an error,
without passing the first end of the input, and the tokens behind that end make no difference.
-/

namespace ColumnStore

namespace Parser.Course

/-! ## Clauses -/

def keyword (word : Keyword) : Course (Parser.keyword word) :=
  show Course (expect (.keyword word)) from .accept nofun

def symbol (s : Symbol) : Course (expect (.symbol s)) := .accept nofun

def identifier : Course Parser.identifier := .accept nofun

def continues : Course Parser.continues := .accept nofun

def list {α : Type} {item : Parser α} (course : Course item) : Course (Parser.list item) :=
  (symbol .leftParen).bind fun _ => .loop (Cursor.repeats_items item)
    (course.bind fun _ => continues.bind fun _ => .pure _)

def namesAfter : Course ⟨Parser.namesAfter, namesAfter_suffix⟩ :=
  .loop Cursor.repeats_namesAfter (.bind .peek fun _ =>
    .ite _ ((symbol .comma).bind fun _ => identifier.bind fun _ => .pure _) (.pure _))

def columnType : Course Parser.columnType :=
  .branch nofun fun
    | .keyword .int, _, rfl => .pure _
    | .keyword .varchar, _, rfl =>
      (symbol .leftParen).bind fun _ => .bind (.accept nofun) fun _ =>
        (symbol .rightParen).bind fun _ => .pure _

def columnDefinition : Course Parser.columnDefinition :=
  identifier.bind fun _ => columnType.bind fun _ => .pure _

def storedLiteral : Course Parser.storedLiteral := .accept nofun

def insertedLiteral : Course Parser.insertedLiteral := .accept nofun

def inTable : Course Parser.inTable :=
  (keyword _).bind fun _ => (keyword _).bind fun _ => identifier

def defaults : Course Parser.defaults :=
  .bind .peek fun _ =>
    .ite _ ((keyword _).bind fun _ => (list storedLiteral).bind fun _ => .pure _) (.pure _)

def projection : Course Parser.projection :=
  .bind (.accept nofun) fun
    | none => .pure _
    | some _ => namesAfter.bind fun _ => .pure _

/-! ## Statements -/

def create : Course Parser.create :=
  .branch nofun fun
    | .keyword .database, _, rfl => identifier.bind fun _ => .pure _
    | .keyword .table, _, rfl =>
      identifier.bind fun _ => (list columnDefinition).bind fun _ => .pure _

def drop : Course Parser.drop :=
  .branch nofun fun
    | .keyword .database, _, rfl => identifier.bind fun _ => .pure _
    | .keyword .table, _, rfl => identifier.bind fun _ => .pure _
    | .keyword .default, _, rfl =>
      (keyword _).bind fun _ => (keyword _).bind fun _ => identifier.bind fun _ =>
        inTable.bind fun _ => .pure _

def use : Course Parser.use := .accept nofun

def «show» : Course Parser.«show» :=
  .branch nofun fun
    | .keyword .databases, _, rfl => .pure _
    | .keyword .tables, _, rfl => .pure _
    | .keyword .current, _, rfl => (keyword _).bind fun _ => .pure _

def insert : Course Parser.insert :=
  (keyword _).bind fun _ => identifier.bind fun _ => (list identifier).bind fun _ =>
    (keyword _).bind fun _ => .bind .position fun _ => (list insertedLiteral).bind fun _ =>
      .ite _ (.pure _) (.failWith _)

def alter : Course Parser.alter :=
  .bind (.accept nofun) fun _ => identifier.bind fun _ => (keyword _).bind fun _ =>
    identifier.bind fun _ => .pure _

def add : Course Parser.add :=
  (keyword _).bind fun _ => (list columnDefinition).bind fun _ => (keyword _).bind fun _ =>
    (keyword _).bind fun _ => identifier.bind fun _ => defaults.bind fun _ => .pure _

def remove : Course Parser.remove :=
  (keyword _).bind fun _ => (keyword _).bind fun _ => identifier.bind fun _ =>
    (list identifier).bind fun _ => .pure _

def rename : Course Parser.rename :=
  (keyword _).bind fun _ => identifier.bind fun _ => (keyword _).bind fun _ =>
    identifier.bind fun _ => inTable.bind fun _ => .pure _

def modify : Course Parser.modify :=
  (keyword _).bind fun _ => (list columnDefinition).bind fun _ => inTable.bind fun _ => .pure _

def truncate : Course Parser.truncate := (keyword _).bind fun _ => identifier.bind fun _ => .pure _

def set : Course Parser.set :=
  (keyword _).bind fun _ => identifier.bind fun _ => inTable.bind fun _ => (keyword _).bind fun _ =>
    storedLiteral.bind fun _ => .pure _

def select : Course Parser.select :=
  projection.bind fun _ => (keyword _).bind fun _ => identifier.bind fun _ => .pure _

def statement : Course Parser.statement :=
  .branch nofun fun
    | .keyword .create, _, rfl => create
    | .keyword .drop, _, rfl => drop
    | .keyword .use, _, rfl => use
    | .keyword .«show», _, rfl => «show»
    | .keyword .insert, _, rfl => insert
    | .keyword .alter, _, rfl => alter
    | .keyword .add, _, rfl => add
    | .keyword .remove, _, rfl => remove
    | .keyword .rename, _, rfl => rename
    | .keyword .modify, _, rfl => modify
    | .keyword .truncate, _, rfl => truncate
    | .keyword .set, _, rfl => set
    | .keyword .select, _, rfl => select

def line : Course Parser.line :=
  statement.bind fun _ => (symbol .semicolon).bind fun _ => .bind .peek fun _ =>
    .ite _ (.pure _) (.fail _)

end Parser.Course

/-! ## The first end of the input -/

namespace Token

/-- Behind the tokens before it stands the first end of the input. -/
theorem exists_first_end {tokens : List Token} (closed : Cursor.Closed tokens) :
    ∃ token, tokens[(beforeEnd tokens).length]? = some token ∧ token.kind = .endOfInput := by
  obtain ⟨last, final, ending⟩ := closed
  have parts : beforeEnd tokens ++ tokens.dropWhile (·.kind ≠ .endOfInput) = tokens :=
    List.takeWhile_append_dropWhile
  have ends := current_dropWhile tokens
  cases behind : tokens.dropWhile (·.kind ≠ .endOfInput) with
  | nil =>
    rw [behind, List.append_nil] at parts
    have inside := List.all_eq_true.mp List.all_takeWhile last
      (parts.symm ▸ List.mem_of_getLast? final : last ∈ beforeEnd tokens)
    simp [ending] at inside
  | cons token later =>
    rw [behind] at parts ends
    have here : (beforeEnd tokens ++ token :: later)[(beforeEnd tokens).length]? = some token := by
      rw [List.getElem?_append_right (Nat.le_refl _), Nat.sub_self, List.getElem?_cons_zero]
    rw [parts] at here
    exact ⟨token, here, ends⟩

/-- Without the tokens behind the first end of the input, those up to it are the same. -/
theorem take_withEnd_throughEnd (tokens : List Token) :
    (withEnd (throughEnd tokens)).take ((beforeEnd tokens).length + 1) =
      (withEnd tokens).take ((beforeEnd tokens).length + 1) := by
  by_cases ended : (beforeEnd tokens).length < tokens.length
  · have count : (throughEnd tokens).length = (beforeEnd tokens).length + 1 := by
      rw [throughEnd, List.length_take, Nat.min_eq_left ended]
    have short := List.prefix_iff_eq_take.mp (prefix_withEnd (throughEnd tokens))
    have ahead : throughEnd tokens <+: withEnd tokens :=
      (List.take_prefix _ tokens).trans (prefix_withEnd tokens)
    have long := List.prefix_iff_eq_take.mp ahead
    rw [count] at short long
    rw [← short, ← long]
  · have whole : throughEnd tokens = tokens := List.take_of_length_le (by omega)
    rw [whole]

end Token

namespace Statement

/-- The walk over a list of tokens, from its first one on. -/
def walk (tokens : List Token) : Option (Except SyntaxError Statement × Trail) :=
  Parser.Course.line.walk (Token.withEnd tokens) ⟨0, []⟩

theorem ofTokens_eq_map (tokens : List Token) :
    ofTokens tokens = (Parser.line.run (Token.withEnd tokens)).map Prod.fst := by
  rw [ofTokens]
  cases Parser.line.run (Token.withEnd tokens) <;> rfl

/-- Whatever stands behind the first end of the input, the walk has the result that is read from a
list with the same tokens up to there. -/
theorem exists_walk (tokens other : List Token)
    (same : (Token.withEnd other).take ((Token.beforeEnd tokens).length + 1) =
      (Token.withEnd tokens).take ((Token.beforeEnd tokens).length + 1)) :
    ∃ steps stop, walk tokens = some (ofTokens other, ⟨stop, steps⟩) ∧ Forward 0 steps stop ∧
      stop ≤ (Token.beforeEnd tokens).length := by
  have ends := Token.exists_first_end (Cursor.closed_withEnd tokens)
  rw [Token.beforeEnd_withEnd] at ends
  obtain ⟨steps, stop, walked, forward, within, _⟩ :=
    Parser.Course.line.goes ⟨ends, same⟩ ⟨0, []⟩ (Nat.zero_le _)
  refine ⟨steps, stop, ?_, forward, within⟩
  rw [walk, walked, ofTokens_eq_map]
  rfl

/-- Parsing ends, in a statement or at an error, with the cursor moved from each token to the next
and no farther than to the first end of the input. Every round of a list that another followed has
moved it forward. The tokens behind that end make no difference. -/
theorem ofTokens_goes_forward (tokens : List Token) :
    (∃ steps stop, walk tokens = some (ofTokens tokens, ⟨stop, steps⟩) ∧
      stop ≤ (Token.beforeEnd tokens).length ∧
      steps.filter Step.isMove = (List.range stop).map (fun i => .move i (i + 1)) ∧
      ∀ start finish, .round start finish ∈ steps → start < finish ∧ finish ≤ stop) ∧
    ofTokens tokens = ofTokens (Token.throughEnd tokens) := by
  obtain ⟨steps, stop, walked, forward, within⟩ := exists_walk tokens tokens rfl
  refine ⟨⟨steps, stop, walked, within, ?_, fun _ _ => forward.rounds⟩, ?_⟩
  · rw [forward.moves, Nat.sub_zero, List.range_eq_range']
  · obtain ⟨_, _, walked', _⟩ := exists_walk tokens _ (Token.take_withEnd_throughEnd tokens)
    have same := walked.symm.trans walked'
    simp only [Option.some.injEq, Prod.mk.injEq] at same
    exact same.1

/-- The cursor stays at the first end of the input, and does not get to the tokens behind it. -/
example : walk [⟨⟨.keyword .«show», "SHOW"⟩, 0⟩, ⟨⟨.keyword .tables, "TABLES"⟩, 5⟩,
    ⟨⟨.symbol .semicolon, ";"⟩, 11⟩, ⟨⟨.endOfInput, ""⟩, 12⟩, ⟨⟨.symbol .comma, ","⟩, 13⟩] =
    some (.ok .showTables, ⟨3, [.move 0 1, .move 1 2, .move 2 3]⟩) :=
  rfl

end Statement

end ColumnStore
