import ColumnStore.Proofs.Statement.Clauses

/-!
# The parser and the grammar agree

The first keyword chooses the parser of a statement, and that parser reads the statements that
begin so. The whole list of tokens is accepted exactly when what stands before the first end of
the input writes a statement, and the answer is that statement.
-/

namespace ColumnStore

open Statement

namespace Parser

/-! ## Statements by their first keyword -/

/-- What is left to write of a statement that begins with a keyword. -/
def After (word : Keyword) (s : Statement) (shape : List Terminal) : Prop :=
  s.Grammatical ∧ .keyword word :: shape = s.terminals

theorem reads_create : Reads create (After .create) := by
  apply ReadsBefore.branch
  · intro kind p chosen
    split at chosen
    · cases chosen
      refine ⟨.database, rfl, (reads_identifier.bind fun _ => reads_pure _).congr fun s shape => ?_⟩
      -- The parts are put in first, so that each statement is a small goal.
      simp only [exists_and_left, exists_eq_left, and_assoc]
      cases s <;> simp [After, Grammatical, terminals]
    · cases chosen
      refine ⟨.table, rfl, (reads_identifier.bind fun _ => reads_definitions.bind fun _ =>
        reads_pure _).congr fun s shape => ?_⟩
      simp only [exists_and_left, exists_eq_left, and_assoc]
      cases s <;> simp [After, Grammatical, terminals]
    · cases chosen
  · rintro s shape ⟨_, opens⟩
    cases s <;> simp [terminals] at opens
    case createDatabase name => exact ⟨.database, _, _, opens, rfl⟩
    case createTable name columns => exact ⟨.table, _, _, opens, rfl⟩

theorem reads_drop : Reads drop (After .drop) := by
  apply ReadsBefore.branch
  · intro kind p chosen
    split at chosen
    · cases chosen
      refine ⟨.database, rfl, (reads_identifier.bind fun _ => reads_pure _).congr fun s shape => ?_⟩
      simp only [exists_and_left, exists_eq_left, and_assoc]
      cases s <;> simp [After, Grammatical, terminals]
    · cases chosen
      refine ⟨.table, rfl, (reads_identifier.bind fun _ => reads_pure _).congr fun s shape => ?_⟩
      simp only [exists_and_left, exists_eq_left, and_assoc]
      cases s <;> simp [After, Grammatical, terminals]
    · cases chosen
      refine ⟨.default, rfl, ((reads_keyword _).bind fun _ => (reads_keyword _).bind fun _ =>
        reads_identifier.bind fun _ => reads_inTable.bind fun _ =>
          reads_pure _).congr fun s shape => ?_⟩
      simp only [exists_and_left, exists_eq_left, and_assoc]
      cases s <;> simp [After, Grammatical, terminals]
    · cases chosen
  · rintro s shape ⟨_, opens⟩
    cases s <;> simp [terminals] at opens
    case dropDatabase name => exact ⟨.database, _, _, opens, rfl⟩
    case dropTable name => exact ⟨.table, _, _, opens, rfl⟩
    case dropDefault table column => exact ⟨.default, _, _, opens, rfl⟩

theorem reads_show : Reads «show» (After .«show») := by
  apply ReadsBefore.branch
  · intro kind p chosen
    split at chosen
    · cases chosen
      refine ⟨.databases, rfl, (reads_pure _).congr fun s shape => ?_⟩
      cases s <;> simp [After, Grammatical, terminals]
    · cases chosen
      refine ⟨.tables, rfl, (reads_pure _).congr fun s shape => ?_⟩
      cases s <;> simp [After, Grammatical, terminals]
    · cases chosen
      refine ⟨.current, rfl, ((reads_keyword _).bind fun _ => reads_pure _).congr fun s shape => ?_⟩
      simp only [exists_and_left, exists_eq_left, and_assoc]
      cases s <;> simp [After, Grammatical, terminals]
    · cases chosen
  · rintro s shape ⟨_, opens⟩
    cases s <;> simp [terminals] at opens
    case showDatabases => exact ⟨.databases, _, _, opens, rfl⟩
    case showTables => exact ⟨.tables, _, _, opens, rfl⟩
    case showCurrentDatabase => exact ⟨.current, _, _, opens, rfl⟩

theorem reads_remove : Reads remove (After .remove) := by
  refine ((reads_keyword _).bind fun _ => (reads_keyword _).bind fun _ =>
    reads_identifier.bind fun _ => reads_names.bind fun _ =>
      reads_pure _).congr fun s shape => ?_
  simp only [exists_and_left, exists_eq_left, and_assoc]
  cases s <;> simp [After, Grammatical, terminals]

theorem reads_rename : Reads rename (After .rename) := by
  refine ((reads_keyword _).bind fun _ => reads_identifier.bind fun _ =>
    (reads_keyword _).bind fun _ => reads_identifier.bind fun _ => reads_inTable.bind fun _ =>
      reads_pure _).congr fun s shape => ?_
  simp only [exists_and_left, exists_eq_left, and_assoc]
  cases s <;> simp [After, Grammatical, terminals]

theorem reads_modify : Reads modify (After .modify) := by
  refine ((reads_keyword _).bind fun _ => reads_definitions.bind fun _ => reads_inTable.bind fun _ =>
    reads_pure _).congr fun s shape => ?_
  simp only [exists_and_left, exists_eq_left, and_assoc]
  cases s <;> simp [After, Grammatical, terminals]

theorem reads_truncate : Reads truncate (After .truncate) := by
  refine ((reads_keyword _).bind fun _ => reads_identifier.bind fun _ =>
    reads_pure _).congr fun s shape => ?_
  simp only [exists_and_left, exists_eq_left, and_assoc]
  cases s <;> simp [After, Grammatical, terminals]

theorem reads_set : Reads set (After .set) := by
  refine ((reads_keyword _).bind fun _ => reads_identifier.bind fun _ => reads_inTable.bind fun _ =>
    (reads_keyword _).bind fun _ => reads_storedLiteral.bind fun _ =>
      reads_pure _).congr fun s shape => ?_
  simp only [exists_and_left, exists_eq_left, and_assoc]
  cases s <;> simp [After, Grammatical, terminals]

theorem reads_use : Reads use (After .use) := by
  refine (reads_accept_any (R := fun s t => s = .leaveDatabase ∧ t = .keyword .none ∨
    ∃ name, s = .useDatabase name ∧ t = .name name) ?_).congr fun s shape => ?_
  · intro s token
    constructor
    · intro chosen
      split at chosen
      · next none =>
        cases chosen
        exact ⟨_, .inl ⟨rfl, rfl⟩, none⟩
      · next identifier =>
        cases chosen
        exact ⟨_, .inr ⟨_, rfl, rfl⟩, identifier, rfl⟩
      · cases chosen
    · rintro ⟨_, ⟨rfl, rfl⟩ | ⟨name, rfl, rfl⟩, here⟩
      · simp only [Terminal.Matches] at here
        simp [here]
      · obtain ⟨identifier, rfl⟩ := here
        simp [identifier]
  · cases s <;> simp [After, Grammatical, terminals]

/-- The keyword that tells what is renamed. -/
def Renamed (renamed : String → String → Statement) (terminal : Terminal) : Prop :=
  renamed = Statement.renameTable ∧ terminal = .keyword .table ∨
    renamed = Statement.renameDatabase ∧ terminal = .keyword .database

theorem reads_renamed :
    Reads (accept renamingOf) fun renamed shape =>
      ∃ terminal, Renamed renamed terminal ∧ shape = [terminal] := by
  apply reads_accept_any
  intro renamed token
  rw [renamingOf]
  constructor
  · intro chosen
    split at chosen
    · next table =>
      cases chosen
      exact ⟨_, .inl ⟨rfl, rfl⟩, table⟩
    · next database =>
      cases chosen
      exact ⟨_, .inr ⟨rfl, rfl⟩, database⟩
    · cases chosen
  · rintro ⟨_, ⟨rfl, rfl⟩ | ⟨rfl, rfl⟩, here⟩
    · simp only [Terminal.Matches] at here
      simp [here]
    · simp only [Terminal.Matches] at here
      simp [here]

theorem reads_alter : Reads alter (After .alter) := by
  refine (reads_renamed.bind fun _ => reads_identifier.bind fun _ => (reads_keyword _).bind fun _ =>
    reads_identifier.bind fun _ => reads_pure _).congr fun s shape => ?_
  simp only [Renamed, or_and_right, exists_or, exists_and_left, exists_eq_left, and_assoc]
  cases s <;> simp [After, Grammatical, terminals]

/-- The values of an insert, as many as there are columns. -/
theorem reads_values (table : String) (columns : List String) (start : Nat) :
    Reads (do
      let values ← list insertedLiteral
      if values.length = columns.length then
        return Statement.insert table columns values
      failWith ⟨.values columns.length, .values values.length, start⟩) fun s shape =>
        ∃ values, values ≠ [] ∧ values.length = columns.length ∧
          s = .insert table columns values ∧ shape = Terminal.ofLiterals values := by
  refine (reads_insertedLiterals.bind fun values => reads_guard _ _).congr fun s shape => ?_
  constructor
  · rintro ⟨values, _, _, ⟨some, rfl⟩, ⟨full, rfl, rfl⟩, rfl⟩
    exact ⟨values, some, full, rfl, List.append_nil _⟩
  · rintro ⟨values, some, full, rfl, rfl⟩
    exact ⟨values, _, [], ⟨some, rfl⟩, ⟨full, rfl, rfl⟩, (List.append_nil _).symm⟩

theorem reads_insert : Reads insert (After .insert) := by
  refine ((reads_keyword _).bind fun _ => reads_identifier.bind fun table =>
    reads_names.bind fun columns => (reads_keyword _).bind fun _ =>
      reads_position_bind (reads_values table columns)).congr fun s shape => ?_
  simp only [exists_and_left, exists_eq_left, and_assoc]
  cases s <;> simp [After, Grammatical, terminals]
  case insert table columns values =>
    intro _ some full none
    rw [none, List.length_nil, eq_comm, List.length_eq_zero_iff] at full
    exact some full

theorem reads_add : ReadsBefore (· ≠ .keyword .default) add (After .add) := by
  refine ((reads_keyword _).bind fun _ => reads_definitions.bind fun _ =>
    (reads_keyword _).bind fun _ => (reads_keyword _).bind fun _ => reads_identifier.bind fun _ =>
      reads_defaults.bind_before (fun _ => (reads_pure _).before) ?_).congr fun s shape => ?_
  · rintro _ _ _ tokens rest ⟨rfl, rfl⟩ spelled ahead
    exact spells_nil.mp spelled ▸ ahead
  · simp only [exists_and_left, exists_eq_left, and_assoc]
    cases s <;> simp [After, Grammatical, terminals]

theorem reads_select : Reads select (After .select) := by
  refine (reads_projection.bind_before (fun _ => (reads_keyword _).bind fun _ =>
    reads_identifier.bind fun _ => reads_pure _) ?_).congr fun s shape => ?_
  · rintro _ _ _ tokens rest ⟨_, _, _, rfl, _, rfl⟩ spelled _
    have kind : (current tokens).kind = .keyword .«from» := current_matches spelled
    simp [kind]
  · simp only [exists_and_left, exists_eq_left, and_assoc]
    cases s <;> simp [After, Grammatical, terminals]
    case select table projection =>
      intro _
      cases projection <;> simp

/-! ## The whole text -/

theorem reads_statement :
    ReadsBefore (· ≠ .keyword .default) statement fun s shape =>
      s.Grammatical ∧ shape = s.terminals := by
  apply ReadsBefore.branch
  · intro kind p chosen
    split at chosen <;> cases chosen
    · exact ⟨.create, rfl, reads_create.before⟩
    · exact ⟨.drop, rfl, reads_drop.before⟩
    · exact ⟨.use, rfl, reads_use.before⟩
    · exact ⟨.«show», rfl, reads_show.before⟩
    · exact ⟨.insert, rfl, reads_insert.before⟩
    · exact ⟨.alter, rfl, reads_alter.before⟩
    · exact ⟨.add, rfl, reads_add⟩
    · exact ⟨.remove, rfl, reads_remove.before⟩
    · exact ⟨.rename, rfl, reads_rename.before⟩
    · exact ⟨.modify, rfl, reads_modify.before⟩
    · exact ⟨.truncate, rfl, reads_truncate.before⟩
    · exact ⟨.set, rfl, reads_set.before⟩
    · exact ⟨.select, rfl, reads_select.before⟩
  · rintro s _ ⟨_, rfl⟩
    cases s <;> exact ⟨_, _, _, rfl, rfl⟩

theorem run_line_eq_ok_iff {tokens rest : List Token} {s : Statement} :
    line.run tokens = .ok (s, rest) ↔
      s.Grammatical ∧ Spells (s.terminals ++ [.symbol .semicolon]) tokens rest ∧
        (current rest).kind = .endOfInput := by
  have ending (parsed : Statement) (middle : List Token) :
      (do
        if (← peek) = .endOfInput then
          return parsed
        fail .endAfterSemicolon : Parser Statement).run middle = .ok (s, rest) ↔
        parsed = s ∧ middle = rest ∧ (current middle).kind = .endOfInput := by
    rw [run_peek_bind]
    by_cases ends : (current middle).kind = .endOfInput
    · rw [if_pos ends, run_pure]
      simp [ends]
    · rw [if_neg ends]
      simp [fail, ends]
  rw [line, run_bind_eq_ok_iff]
  constructor
  · rintro ⟨parsed, middle, first, later⟩
    obtain ⟨_, left, semicolon, last⟩ := run_bind_eq_ok_iff.mp later
    obtain ⟨rfl, rfl, ends⟩ := (ending parsed left).mp last
    obtain ⟨_, rfl, mark⟩ := (reads_symbol .semicolon trivial).mp semicolon
    have kind : (current middle).kind = .symbol .semicolon := current_matches mark
    have ahead : (current middle).kind ≠ .keyword .default := by simp [kind]
    obtain ⟨_, ⟨grammatical, rfl⟩, body⟩ := (reads_statement ahead).mp first
    exact ⟨grammatical, spells_append.mpr ⟨middle, body, mark⟩, ends⟩
  · rintro ⟨grammatical, spelled, ends⟩
    obtain ⟨middle, body, mark⟩ := spells_append.mp spelled
    have kind : (current middle).kind = .symbol .semicolon := current_matches mark
    have ahead : (current middle).kind ≠ .keyword .default := by simp [kind]
    refine ⟨s, middle, (reads_statement ahead).mpr ⟨_, ⟨grammatical, rfl⟩, body⟩, ?_⟩
    exact run_bind_eq_ok_iff.mpr ⟨(), rest, (reads_symbol .semicolon trivial).mpr ⟨_, rfl, mark⟩,
      (ending s rest).mpr ⟨rfl, rfl, ends⟩⟩

end Parser

/-- An end of the input behind the tokens does not change what stands before the first one. -/
theorem Token.beforeEnd_append {tokens : List Token} {last : Token}
    (ends : last.kind = .endOfInput) : beforeEnd (tokens ++ [last]) = beforeEnd tokens := by
  induction tokens with
  | nil => simp [beforeEnd, ends]
  | cons token tokens ih =>
    by_cases inside : token.kind = .endOfInput
    · simp [beforeEnd, inside]
    · simpa [beforeEnd, inside] using ih

theorem Token.beforeEnd_withEnd (tokens : List Token) :
    beforeEnd (withEnd tokens) = beforeEnd tokens := by
  rw [withEnd]
  split
  · next none =>
    rw [List.getLast?_eq_none_iff.mp none]
    rfl
  · split
    · rfl
    · exact beforeEnd_append rfl

theorem Token.current_dropWhile (tokens : List Token) :
    (Parser.current (tokens.dropWhile (·.kind ≠ .endOfInput))).kind = .endOfInput := by
  induction tokens with
  | nil => rfl
  | cons token tokens ih =>
    by_cases inside : token.kind = .endOfInput
    · simp [inside, Parser.current]
    · simpa [inside] using ih

/-- Tokens that are spelled up to an end of the input are those before the first one. -/
theorem exists_spells_end_iff {shape : List Terminal} {tokens : List Token} :
    (∃ rest, Spells shape tokens rest ∧ (Parser.current rest).kind = .endOfInput) ↔
      List.Forall₂ Terminal.Matches shape (Token.beforeEnd tokens) := by
  constructor
  · rintro ⟨rest, ⟨front, matching, rfl⟩, ends⟩
    have inside := Terminal.inside_of_matches matching
    have behind : rest.takeWhile (·.kind ≠ .endOfInput) = [] := by
      cases rest with
      | nil => rfl
      | cons token rest =>
        have kind : token.kind = .endOfInput := ends
        simp [kind]
    rw [Token.beforeEnd, List.takeWhile_append_of_pos (by simpa using inside), behind,
      List.append_nil]
    exact matching
  · intro matching
    exact ⟨tokens.dropWhile (·.kind ≠ .endOfInput),
      ⟨_, matching, List.takeWhile_append_dropWhile.symm⟩, Token.current_dropWhile tokens⟩

namespace Statement

variable {tokens : List Token} {s : Statement}

theorem ofTokens_eq_ok_iff :
    ofTokens tokens = .ok s ↔ ∃ rest, Parser.line.run (Token.withEnd tokens) = .ok (s, rest) := by
  rw [ofTokens]
  constructor
  · intro h
    split at h
    · cases h
    · next parsed rest ran =>
      cases h
      exact ⟨rest, ran⟩
  · rintro ⟨rest, ran⟩
    rw [ran]

theorem ofTokens_eq_ok_iff_isWrittenBy :
    ofTokens tokens = .ok s ↔ s.IsWrittenBy (Token.beforeEnd tokens) := by
  rw [ofTokens_eq_ok_iff, IsWrittenBy, ← Token.beforeEnd_withEnd, ← exists_spells_end_iff]
  simp only [Parser.run_line_eq_ok_iff, exists_and_left]

/-- The statement that a list of tokens is read as is the one that it writes up to the first end
of the input, where no list writes two. -/
theorem ofTokens_reads_grammar (tokens : List Token) :
    (∀ s, ofTokens tokens = .ok s ↔ s.IsWrittenBy (Token.beforeEnd tokens)) ∧
      ∀ s s' : Statement, s.IsWrittenBy (Token.beforeEnd tokens) →
        s'.IsWrittenBy (Token.beforeEnd tokens) → s = s' := by
  refine ⟨fun s => ofTokens_eq_ok_iff_isWrittenBy, fun s s' here there => ?_⟩
  have read : ofTokens tokens = .ok s := ofTokens_eq_ok_iff_isWrittenBy.mpr here
  have read' : ofTokens tokens = .ok s' := ofTokens_eq_ok_iff_isWrittenBy.mpr there
  exact Except.ok.inj (read.symm.trans read')

/-- What a keyword or a symbol is spelled like makes no difference. -/
example : (select "items" .all).IsWrittenBy
    [⟨⟨.keyword .select, "Select"⟩, 0⟩, ⟨⟨.symbol .star, ""⟩, 7⟩, ⟨⟨.keyword .«from», "FROM"⟩, 9⟩,
      ⟨⟨.identifier, "items"⟩, 14⟩, ⟨⟨.symbol .semicolon, ";"⟩, 19⟩] := by
  decide

end Statement

end ColumnStore
