import ColumnStore.Proofs.Indexed.Cursor
import ColumnStore.Proofs.Statement.Clauses

/-!
# Every list of tokens is parsed without a read outside it

Each clause and each statement read by position follows its parser. The list of tokens that is
parsed ends with the end of the input, so the whole line is read as its parser reads it.
-/

namespace ColumnStore.Cursor

open SyntaxError (Expected)

/-! ## Clauses -/

theorem follows_varcharLength : Follows varcharLength .varcharLength :=
  follows_accept (going_of_refused nofun)

theorem follows_columnType : Follows columnType .columnType := by
  apply follows_branch
  intro kind
  cases kind with
  | keyword word =>
    cases word with
    | int => exact ⟨nofun, follows_pure _⟩
    | varchar =>
      refine ⟨nofun, (follows_symbol .leftParen).bind fun _ => ?_⟩
      exact follows_varcharLength.bind fun length =>
        (follows_symbol .rightParen).bind fun _ => follows_pure _
    | _ => exact rfl
  | _ => exact rfl

theorem follows_columnDefinition : Follows columnDefinition .columnDefinition :=
  follows_identifier.bind fun _ => follows_columnType.bind fun _ => follows_pure _

theorem follows_storedLiteral : Follows storedLiteral .storedLiteral :=
  follows_accept (going_of_refused nofun)

theorem follows_insertedLiteral : Follows insertedLiteral .insertedLiteral :=
  follows_accept (going_of_refused nofun)

theorem follows_inTable : Follows inTable .inTable :=
  (follows_keyword _).bind fun _ => (follows_keyword _).bind fun _ => follows_identifier

theorem follows_defaults : Follows defaults .defaults := by
  unfold defaults
  rw [advance_of_kind]
  refine Follows.of_kind fun token => ?_
  by_cases given : token.kind = .keyword .default
  · simp only [given, if_true]
    exact (follows_keyword .default).bind fun _ =>
      (follows_list follows_storedLiteral).bind fun _ => follows_pure _
  · simp only [given, if_false]
    exact follows_pure none

/-! ## Statements -/

/-- A statement with its keyword in front. -/
def FollowsBehind (word : Keyword) (q : Cursor Statement) (p : Parser Statement) : Prop :=
  Follows q (Parser.keyword word >>= fun _ => p)

theorem follows_create : FollowsBehind .create create .create := by
  refine (follows_keyword _).bind fun _ => follows_branch fun kind => ?_
  cases kind with
  | keyword word =>
    cases word with
    | database => exact ⟨nofun, follows_identifier.bind fun _ => follows_pure _⟩
    | table =>
      exact ⟨nofun, follows_identifier.bind fun _ =>
        (follows_list follows_columnDefinition).bind fun _ => follows_pure _⟩
    | _ => exact rfl
  | _ => exact rfl

theorem follows_drop : FollowsBehind .drop drop .drop := by
  refine (follows_keyword _).bind fun _ => follows_branch fun kind => ?_
  cases kind with
  | keyword word =>
    cases word with
    | database => exact ⟨nofun, follows_identifier.bind fun _ => follows_pure _⟩
    | table => exact ⟨nofun, follows_identifier.bind fun _ => follows_pure _⟩
    | default =>
      refine ⟨nofun, (follows_keyword _).bind fun _ => (follows_keyword _).bind fun _ => ?_⟩
      exact follows_identifier.bind fun _ => follows_inTable.bind fun _ => follows_pure _
    | _ => exact rfl
  | _ => exact rfl

theorem follows_show : FollowsBehind .«show» «show» .«show» := by
  refine (follows_keyword _).bind fun _ => follows_branch fun kind => ?_
  cases kind with
  | keyword word =>
    cases word with
    | databases => exact ⟨nofun, follows_pure _⟩
    | tables => exact ⟨nofun, follows_pure _⟩
    | current => exact ⟨nofun, (follows_keyword _).bind fun _ => follows_pure _⟩
    | _ => exact rfl
  | _ => exact rfl

theorem follows_use : FollowsBehind .use use .use := by
  refine (follows_keyword _).bind fun _ => follows_kind_or_identifier nofun fun token => ?_
  cases token.kind with
  | keyword word => cases word <;> rfl
  | _ => rfl

theorem follows_insert : FollowsBehind .insert insert .insert := by
  refine (follows_keyword _).bind fun _ => (follows_keyword _).bind fun _ => ?_
  refine follows_identifier.bind fun table => (follows_list follows_identifier).bind fun columns => ?_
  refine (follows_keyword _).bind fun _ => Follows.of_position fun start => ?_
  refine (follows_list follows_insertedLiteral).bind fun values => ?_
  split
  · exact follows_pure _
  · intro tokens position closed inside
    rfl

theorem follows_alter : FollowsBehind .alter alter .alter := by
  refine (follows_keyword _).bind fun _ => ?_
  refine Follows.bind (follows_accept (going_of_refused nofun)) fun renamed => ?_
  exact follows_identifier.bind fun _ => (follows_keyword _).bind fun _ =>
    follows_identifier.bind fun _ => follows_pure _

theorem follows_add : FollowsBehind .add add .add := by
  refine (follows_keyword _).bind fun _ => (follows_keyword _).bind fun _ => ?_
  refine (follows_list follows_columnDefinition).bind fun _ => ?_
  refine (follows_keyword _).bind fun _ => (follows_keyword _).bind fun _ => ?_
  exact follows_identifier.bind fun _ => follows_defaults.bind fun _ => follows_pure _

theorem follows_remove : FollowsBehind .remove remove .remove := by
  refine (follows_keyword _).bind fun _ => (follows_keyword _).bind fun _ => ?_
  refine (follows_keyword _).bind fun _ => follows_identifier.bind fun _ => ?_
  exact (follows_list follows_identifier).bind fun _ => follows_pure _

theorem follows_rename : FollowsBehind .rename rename .rename := by
  refine (follows_keyword _).bind fun _ => (follows_keyword _).bind fun _ => ?_
  refine follows_identifier.bind fun _ => (follows_keyword _).bind fun _ => ?_
  exact follows_identifier.bind fun _ => follows_inTable.bind fun _ => follows_pure _

theorem follows_modify : FollowsBehind .modify modify .modify := by
  refine (follows_keyword _).bind fun _ => (follows_keyword _).bind fun _ => ?_
  refine (follows_list follows_columnDefinition).bind fun _ => ?_
  exact follows_inTable.bind fun _ => follows_pure _

theorem follows_truncate : FollowsBehind .truncate truncate .truncate :=
  (follows_keyword _).bind fun _ => (follows_keyword _).bind fun _ =>
    follows_identifier.bind fun _ => follows_pure _

theorem follows_set : FollowsBehind .set set .set := by
  refine (follows_keyword _).bind fun _ => (follows_keyword _).bind fun _ => ?_
  refine follows_identifier.bind fun _ => follows_inTable.bind fun _ => ?_
  exact (follows_keyword _).bind fun _ => follows_storedLiteral.bind fun _ => follows_pure _

/-- One further name, if there is a comma, and whether there was. -/
def nextName : Parser (List String × Bool) := do
  if (← Parser.peek) = .symbol .comma then
    Parser.expect (.symbol .comma)
    let name ← Parser.identifier
    return ([name], true)
  else return ([], false)

theorem run_nextName (ahead : List Token) :
    nextName.run ahead =
      if (Parser.current ahead).kind = .symbol .comma then
        match Parser.identifier.run ahead.tail with
        | .error e => .error e
        | .ok (name, rest) => .ok (([name], true), rest)
      else .ok (([], false), ahead) := by
  rw [nextName, Parser.run_peek_bind]
  by_cases comma : (Parser.current ahead).kind = .symbol .comma
  · simp only [comma, if_true, Parser.run_bind, Parser.expect, Parser.accept]
    cases Parser.identifier.run ahead.tail <;> rfl
  · simp only [comma, if_false]
    rfl

theorem repeats_namesAfter :
    Parser.Repeats nextName ⟨Parser.namesAfter, Parser.namesAfter_suffix⟩ where
  shorter {ahead found rest} ran := by
    rw [run_nextName] at ran
    split at ran
    · cases taken : Parser.identifier.run ahead.tail with
      | error e => simp [taken] at ran
      | ok result =>
        simp only [taken, Except.ok.injEq, Prod.mk.injEq] at ran
        exact ran.2 ▸ Nat.lt_of_lt_of_le (Parser.identifier_length taken)
          ahead.tail_suffix.length_le
    · simp at ran
  unfolded ahead := by
    change Parser.namesAfter ahead = _
    rw [Parser.namesAfter_eq, Parser.run_bind, run_nextName]
    split
    · cases Parser.identifier.run ahead.tail with
      | error e => rfl
      | ok result =>
        simp only [if_true, Parser.run_bind]
        cases Parser.namesAfter result.2 <;> rfl
    · rfl

theorem follows_namesAfter : Follows namesAfter ⟨Parser.namesAfter, Parser.namesAfter_suffix⟩ := by
  unfold namesAfter
  rw [advance_of_kind]
  refine follows_loop (show Follows _ nextName from Follows.of_kind fun token => ?_)
    repeats_namesAfter.shorter repeats_namesAfter.unfolded
  split
  · exact (follows_symbol .comma).bind fun _ => follows_identifier.bind fun _ => follows_pure _
  · exact follows_pure _

/-- The star or the first name, without the names behind it. -/
def starOrName : Cursor (Option String) := do
  if (← current).kind = .symbol .star then
    advance
    return none
  else return some (← identifier)

theorem projection_eq :
    projection = starOrName >>= fun
      | none => return .all
      | some name => return .columns (name :: (← namesAfter)) := by
  simp only [projection, starOrName, bind_assoc]
  congr 1
  funext token
  split <;> simp

theorem follows_projection : Follows projection .projection := by
  rw [projection_eq]
  refine Follows.bind (follows_kind_or_identifier nofun fun token => ?_) fun chosen => ?_
  · rw [Parser.firstColumnOf]
    cases token.kind with
    | symbol s => cases s <;> rfl
    | _ => rfl
  · cases chosen with
    | none => exact follows_pure _
    | some name => exact follows_namesAfter.bind fun _ => follows_pure _

theorem follows_select : FollowsBehind .select select .select := by
  refine (follows_keyword _).bind fun _ => follows_projection.bind fun _ => ?_
  exact (follows_keyword _).bind fun _ => follows_identifier.bind fun _ => follows_pure _

theorem follows_statement : Follows statement .statement := by
  apply follows_dispatch
  intro token
  cases token.kind with
  | keyword word =>
    cases word with
    | create => exact ⟨nofun, follows_create⟩
    | drop => exact ⟨nofun, follows_drop⟩
    | use => exact ⟨nofun, follows_use⟩
    | «show» => exact ⟨nofun, follows_show⟩
    | insert => exact ⟨nofun, follows_insert⟩
    | alter => exact ⟨nofun, follows_alter⟩
    | add => exact ⟨nofun, follows_add⟩
    | remove => exact ⟨nofun, follows_remove⟩
    | rename => exact ⟨nofun, follows_rename⟩
    | modify => exact ⟨nofun, follows_modify⟩
    | truncate => exact ⟨nofun, follows_truncate⟩
    | set => exact ⟨nofun, follows_set⟩
    | select => exact ⟨nofun, follows_select⟩
    | _ => exact rfl
  | _ => exact rfl

theorem follows_line : Follows line .line := by
  refine follows_statement.bind fun parsed => (follows_symbol _).bind fun _ => ?_
  refine Follows.of_kind fun token => ?_
  split
  · exact follows_pure _
  · exact follows_fail _

theorem closed_withEnd (tokens : List Token) : Closed (Token.withEnd tokens) := by
  unfold Token.withEnd
  split
  next none => exact ⟨_, rfl, rfl⟩
  next last final =>
    split
    next ending => exact ⟨last, final, ending⟩
    next other => exact ⟨_, List.getLast?_concat, rfl⟩

/-- Every list of tokens is parsed, and no token outside it is read. -/
theorem ofTokens_eq (tokens : List Token) : ofTokens tokens = some (Statement.ofTokens tokens) := by
  have closed := closed_withEnd tokens
  have inside : 0 < (Token.withEnd tokens).length := by
    obtain ⟨last, final, _⟩ := closed
    exact List.length_pos_of_mem (List.mem_of_getLast? final)
  have parsed := follows_line closed inside
  rw [List.drop_zero] at parsed
  unfold ofTokens Statement.ofTokens
  cases ran : Parser.line.run (Token.withEnd tokens) with
  | error e =>
    rw [ran] at parsed
    simp only [StateT.run', ReaderT.run, parsed]
    rfl
  | ok result =>
    rw [ran] at parsed
    obtain ⟨stop, read, _⟩ := parsed
    simp only [StateT.run', ReaderT.run, read]
    rfl

end ColumnStore.Cursor
