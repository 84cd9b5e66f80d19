import ColumnStore.Proofs.Indexed.Statement
import ColumnStore.Proofs.Statement.Predicted
import ColumnStore.Proofs.Statement.Printing
import ColumnStore.Statement.Offence

/-!
# Errors stand at the first offending token

Every parser of a statement but the one of an insert refuses tokens only at the next one. An insert
is refused behind its second list too, and it is exactly the lists of different lengths that make
it so. As what is refused depends on nothing behind it, the error tells the first token that no
statement can have, or an insert that has been read to its end.
-/

namespace ColumnStore

namespace Statement

theorem formed_of_grammatical {s : Statement} (h : s.Grammatical) : s.Formed := by
  cases s with
  | insert table columns values =>
    refine ⟨h.1, fun none => h.1 ?_⟩
    rw [← List.length_eq_zero_iff, ← h.2, none, List.length_nil]
  | _ => exact h

theorem grammatical_or_uneven {s : Statement} (formed : s.Formed) :
    s.Grammatical ∨ ∃ table columns values, s = insert table columns values ∧ columns ≠ [] ∧
      values ≠ [] ∧ values.length ≠ columns.length := by
  cases s with
  | insert table columns values =>
    by_cases full : values.length = columns.length
    · exact .inl ⟨formed.1, full⟩
    · exact .inr ⟨table, columns, values, rfl, formed.1, formed.2, full⟩
  | _ => exact .inl formed

end Statement

open Statement

namespace Parser

variable {tokens rest front : List Token} {e : SyntaxError}

/-- The values of an insert that are not as many as its columns. -/
def Uneven (columns : List String) (start : Nat) (tokens : List Token) (e : SyntaxError) : Prop :=
  ∃ values front, front <+: tokens ∧ values ≠ [] ∧ values.length ≠ columns.length ∧
    List.Forall₂ Terminal.Matches (Terminal.ofLiterals values) front ∧
    e = ⟨.values columns.length, .values values.length, start⟩

theorem predictsOr_values (table : String) (columns : List String) (start : Nat) :
    PredictsOr (do
      let values ← list insertedLiteral
      if values.length = columns.length then
        return Statement.insert table columns values
      failWith ⟨.values columns.length, .values values.length, start⟩)
      (fun s shape => ∃ values, values ≠ [] ∧ s = .insert table columns values ∧
        shape = Terminal.ofLiterals values)
      (Uneven columns start) := by
  refine (predicts_insertedLiterals.bind_or fun values => predictsOr_guard _ _).imp ?_ ?_
  · rintro _ _ ⟨values, _, _, ⟨some, rfl⟩, ⟨rfl, rfl⟩, rfl⟩
    exact ⟨values, some, rfl, List.append_nil _⟩
  · rintro _ _ ⟨values, front, _, rest, rfl, ⟨some, rfl⟩, matching, uneven, rfl⟩
    exact ⟨values, front, List.prefix_append front rest, some, uneven, matching, rfl⟩

theorem predictsOr_insert :
    PredictsOr insert (fun s shape => s.Formed ∧ .keyword .insert :: shape = s.terminals)
      fun tokens e => ∀ token : Token, token.kind = .keyword .insert →
        ∃ front, front <+: token :: tokens ∧ Miscounts front e := by
  refine ((predicts_keyword _).bind_or fun _ => predicts_identifier.bind_or fun table =>
    predicts_names.bind_or fun columns => (predicts_keyword _).bind_or fun _ =>
      predictsOr_position_bind (predictsOr_values table columns)).imp ?_ ?_
  · rintro _ _ ⟨_, _, _, rfl, ⟨table, _, _, rfl, ⟨columns, _, _, ⟨named, rfl⟩, ⟨_, _, _, rfl,
      ⟨values, some, rfl, rfl⟩, rfl⟩, rfl⟩, rfl⟩, rfl⟩
    exact ⟨⟨named, some⟩, by simp [terminals]⟩
  · rintro _ _ ⟨_, into, _, _, rfl, rfl, isInto, table, name, _, _, rfl, rfl, isName, columns,
      names, _, _, rfl, ⟨named, rfl⟩, areNames, _, word, _, _, rfl, rfl, isWord, values, _,
      ⟨rest, rfl⟩, some, uneven, matching, rfl⟩ token kind
    obtain ⟨opening, inner, _, _, rfl⟩ := List.forall₂_cons_left_iff.mp matching
    have head : List.Forall₂ Terminal.Matches (insertHead table columns)
        (token :: (into ++ (name ++ (names ++ word)))) :=
      .cons kind (List.rel_append isInto (List.rel_append isName (List.rel_append areNames isWord)))
    exact ⟨_, ⟨rest, by simp⟩, table, columns, values, _, opening, inner, rfl, named, some, uneven,
      head, matching, rfl⟩

theorem predictsOr_statement :
    PredictsOr statement (fun s shape => s.Formed ∧ shape = s.terminals) fun tokens e =>
      ∃ front, front <+: tokens ∧ Miscounts front e := by
  have regular {p : Parser Statement} {word : Keyword} {N : List Token → SyntaxError → Prop}
      (predicts : Predicts p (After word)) :
      PredictsOr p (fun s shape => s.Formed ∧ .keyword word :: shape = s.terminals) N := by
    refine predicts.imp ?_ fun _ _ => False.elim
    rintro s shape ⟨grammatical, opens⟩
    exact ⟨formed_of_grammatical grammatical, opens⟩
  refine predictsOr_branch ⟨.keyword .create, _, rfl⟩ fun kind p chosen => ?_
  split at chosen <;> cases chosen
  · exact ⟨.create, rfl, regular predicts_create⟩
  · exact ⟨.drop, rfl, regular predicts_drop⟩
  · exact ⟨.use, rfl, regular predicts_use⟩
  · exact ⟨.«show», rfl, regular predicts_show⟩
  · exact ⟨.insert, rfl, predictsOr_insert⟩
  · exact ⟨.alter, rfl, regular predicts_alter⟩
  · exact ⟨.add, rfl, regular predicts_add⟩
  · exact ⟨.remove, rfl, regular predicts_remove⟩
  · exact ⟨.rename, rfl, regular predicts_rename⟩
  · exact ⟨.modify, rfl, regular predicts_modify⟩
  · exact ⟨.truncate, rfl, regular predicts_truncate⟩
  · exact ⟨.set, rfl, regular predicts_set⟩
  · exact ⟨.select, rfl, regular predicts_select⟩

/-- A statement is ended by a semicolon. -/
def Ended (s : Statement) (shape : List Terminal) : Prop :=
  s.Formed ∧ shape = s.terminals ++ [.symbol .semicolon]

theorem predictsOr_line :
    PredictsOr line Ended fun tokens e => ∃ front, front <+: tokens ∧ Miscounts front e := by
  have ending (parsed : Statement) : Predicts (do
      if (← peek) = .endOfInput then
        return parsed
      fail .endAfterSemicolon) fun s shape => s = parsed ∧ shape = [] := by
    refine predicts_peek_bind fun kind => ?_
    split
    · exact predicts_pure parsed
    · exact predicts_fail _ ⟨parsed, [], [], ⟨rfl, rfl⟩, .nil⟩
  refine (predictsOr_statement.bind fun parsed => (predicts_symbol _).bind fun _ =>
    ending parsed).weaken ?_
  rintro _ _ ⟨s, _, _, ⟨formed, rfl⟩, ⟨_, _, _, rfl, ⟨rfl, rfl⟩, rfl⟩, rfl⟩
  exact ⟨formed, rfl⟩

theorem run_bind_of_ok {α β : Type} {p : Parser α} {f : α → Parser β} {a : α}
    (ran : p.run tokens = .ok (a, rest)) : (p >>= f).run tokens = (f a).run rest := by
  rw [run_bind, ran]

theorem run_insert_of_uneven {table : String} {columns : List String} {values : List Literal}
    {middle : List Token} (named : columns ≠ []) (some : values ≠ [])
    (uneven : values.length ≠ columns.length)
    (head : Spells ([.keyword .into, .name table] ++ Terminal.ofNames columns ++ [.keyword .values])
      tokens middle)
    (closed : Spells (Terminal.ofLiterals values) middle rest) :
    insert.run tokens =
      .error ⟨.values columns.length, .values values.length, (current middle).position⟩ := by
  obtain ⟨last, front, word⟩ := spells_append.mp head
  obtain ⟨left, into, others⟩ := spells_cons_split.mp front
  obtain ⟨right, name, names⟩ := spells_cons_split.mp others
  have taken : (keyword .into).run tokens = .ok ((), left) :=
    (reads_keyword .into trivial).mpr ⟨_, rfl, into⟩
  have identified : identifier.run left = .ok (table, right) :=
    (reads_identifier trivial).mpr ⟨_, rfl, name⟩
  have listed : (list identifier).run right = .ok (columns, last) :=
    (reads_names trivial).mpr ⟨_, ⟨named, rfl⟩, names⟩
  have parted : (keyword .values).run last = .ok ((), middle) :=
    (reads_keyword .values trivial).mpr ⟨_, rfl, word⟩
  have filled : (list insertedLiteral).run middle = .ok (values, rest) :=
    (reads_insertedLiterals trivial).mpr ⟨_, ⟨some, rfl⟩, closed⟩
  rw [insert, run_bind_of_ok taken, run_bind_of_ok identified, run_bind_of_ok listed,
    run_bind_of_ok parted, run_position_bind, run_bind_of_ok filled, if_neg uneven]
  rfl

/-- Lists of different lengths are refused whatever follows. -/
theorem run_line_of_miscounts (h : Miscounts front e) (ahead : front <+: tokens) :
    line.run tokens = .error e := by
  obtain ⟨_, columns, values, _, opening, inner, rfl, named, some, uneven, head, matching, rfl⟩ := h
  obtain ⟨token, later, kind, matching', rfl⟩ := List.forall₂_cons_left_iff.mp head
  obtain ⟨rest, rfl⟩ := ahead
  have kind : token.kind = .keyword .insert := kind
  have refused : statement.run (token :: (later ++ (opening :: inner ++ rest))) =
      .error ⟨.values columns.length, .values values.length, opening.position⟩ := by
    rw [statement, run_branch_cons (p := insert) (by rw [kind])]
    exact run_insert_of_uneven named some uneven ⟨later, matching', rfl⟩ ⟨_, matching, rfl⟩
  rw [line, run_bind, List.append_assoc, List.cons_append, refused]

end Parser

namespace Token

variable {tokens front : List Token}

theorem withEnd_cases (tokens : List Token) :
    withEnd tokens = tokens ∨
      ∃ last, last.kind = .endOfInput ∧ withEnd tokens = tokens ++ [last] := by
  rw [withEnd]
  split
  · next none =>
    rw [List.getLast?_eq_none_iff.mp none]
    exact .inr ⟨_, rfl, rfl⟩
  · split
    · exact .inl rfl
    · exact .inr ⟨_, rfl, rfl⟩

theorem prefix_withEnd (tokens : List Token) : tokens <+: withEnd tokens := by
  obtain same | ⟨last, _, added⟩ := withEnd_cases tokens
  · exact same.symm ▸ List.prefix_rfl
  · exact added.symm ▸ List.prefix_append tokens [last]

theorem prefix_of_prefix_withEnd (inside : ∀ token ∈ front, token.kind ≠ .endOfInput)
    (ahead : front <+: withEnd tokens) : front <+: tokens := by
  obtain same | ⟨last, ends, added⟩ := withEnd_cases tokens
  · exact same ▸ ahead
  · obtain rfl | shorter := List.prefix_concat_iff.mp (added ▸ ahead)
    · exact absurd ends (inside last (by simp))
    · exact shorter

end Token

namespace Statement

variable {tokens front : List Token} {e : SyntaxError}

theorem ofTokens_eq_error_iff :
    ofTokens tokens = .error e ↔ Parser.line.run (Token.withEnd tokens) = .error e := by
  rw [ofTokens]
  cases Parser.line.run (Token.withEnd tokens) <;> simp

theorem ofToken_ne_values (token : Token) (count : Nat) :
    SyntaxError.Found.ofToken token ≠ .values count := by
  unfold SyntaxError.Found.ofToken
  split <;> nofun

theorem Miscounts.isMiscount (h : Miscounts front e) : e.IsMiscount := by
  obtain ⟨_, _, _, _, _, _, _, _, _, _, _, _, rfl⟩ := h
  exact ⟨_, _, rfl, rfl⟩

theorem Miscounts.inside (h : Miscounts front e) :
    ∀ token ∈ front, token.kind ≠ .endOfInput := by
  obtain ⟨_, _, _, _, _, _, rfl, _, _, _, head, closed, rfl⟩ := h
  exact Terminal.inside_of_matches (List.rel_append head closed)

theorem ofTokens_of_miscounts (h : Miscounts front e) (ahead : front <+: tokens) :
    ofTokens tokens = .error e :=
  ofTokens_eq_error_iff.mpr
    (Parser.run_line_of_miscounts h (ahead.trans (Token.prefix_withEnd tokens)))

/-- What writes an insert with lists of different lengths, and a semicolon, begins with one that is
refused. -/
theorem exists_miscounts {table : String} {columns : List String} {values : List Literal}
    (named : columns ≠ []) (some : values ≠ []) (uneven : values.length ≠ columns.length)
    (matching : List.Forall₂ Terminal.Matches
      ((insert table columns values).terminals ++ [.symbol .semicolon]) tokens) :
    ∃ front e, front <+: tokens ∧ Miscounts front e := by
  have spelled : Spells (insertHead table columns ++ Terminal.ofLiterals values ++
      [.symbol .semicolon]) tokens [] := ⟨tokens, matching, (List.append_nil _).symm⟩
  obtain ⟨last, body, _⟩ := spells_append.mp spelled
  obtain ⟨_, ⟨head, written, rfl⟩, ⟨filled, closed, rfl⟩⟩ := spells_append.mp body
  obtain ⟨opening, inner, _, _, rfl⟩ := List.forall₂_cons_left_iff.mp closed
  exact ⟨head ++ opening :: inner, _, ⟨last, List.append_assoc _ _ _⟩, table, columns, values,
    head, opening, inner, rfl, named, some, uneven, written, closed, rfl⟩

/-- Tokens do not begin a statement if all lists that begin with them are refused, and not for the
count of values in an insert. -/
theorem not_begins_of_refused (refused : ∀ other, front <+: other → ofTokens other = .error e)
    (once : ¬ e.IsMiscount) : ¬ Begins front := by
  rintro ⟨s, later, formed, matching⟩
  have fails : ofTokens (front ++ later) = .error e := refused _ (List.prefix_append front later)
  obtain grammatical | ⟨_, _, _, rfl, named, some, uneven⟩ := grammatical_or_uneven formed
  · have ended := exists_spells_end_iff.mp ⟨[], ⟨_, matching, (List.append_nil _).symm⟩, rfl⟩
    have parsed : ofTokens (front ++ later) = .ok s :=
      ofTokens_eq_ok_iff_isWrittenBy.mpr ⟨grammatical, ended⟩
    cases parsed.symm.trans fails
  · obtain ⟨_, e', behind, miscounts⟩ := exists_miscounts named some uneven matching
    have other : ofTokens (front ++ later) = .error e' := ofTokens_of_miscounts miscounts behind
    cases other.symm.trans fails
    exact once miscounts.isMiscount

theorem begins_of_viable (viable : Parser.Viable Parser.Ended front) : Begins front := by
  obtain ⟨s, _, later, ⟨formed, rfl⟩, matching⟩ := viable
  exact ⟨s, later, formed, matching⟩

/-- A refusal at the next token offends with that token. -/
theorem exists_offends (once : ¬ e.IsMiscount)
    (fails : Parser.FailsAt Parser.line Parser.Ended (Token.withEnd tokens) e) :
    ∃ index, Offends (Token.withEnd tokens) e index := by
  obtain ⟨front, rest, expected, split, viable, here, stable⟩ := fails
  have begins := begins_of_viable viable
  cases rest with
  | nil =>
    -- All tokens cannot be viable, because the last one is the end of the input.
    obtain ⟨s, later, formed, matching⟩ := begins
    obtain ⟨last, final, ends⟩ := Cursor.closed_withEnd tokens
    have member : last ∈ front ++ later := by
      refine List.mem_append_left _ ?_
      rw [← List.append_nil front, ← split]
      exact List.mem_of_getLast? final
    exact absurd ends (Terminal.inside_of_matches matching last member)
  | cons token rest =>
    have upTo : (Token.withEnd tokens).take (front.length + 1) = front ++ [token] := by
      rw [split, List.append_cons]
      exact List.take_left' (by simp)
    have refused : ∀ other, front ++ [token] <+: other → ofTokens other = .error e := by
      intro other behind
      obtain ⟨later, same⟩ := behind.trans (Token.prefix_withEnd other)
      rw [ofTokens_eq_error_iff, ← same, List.append_assoc]
      exact stable _ rfl
    refine ⟨front.length, ⟨token, ?_, ?_, ?_⟩, ?_, ?_, ?_⟩
    · simp [split]
    · rw [here]
      rfl
    · rw [here]
      rfl
    · simpa [split] using begins
    · exact upTo ▸ not_begins_of_refused refused once
    · exact upTo ▸ refused

/-- Tokens are refused at the first one that no statement can have in its place. The one other way
to be refused is to begin with an insert with lists of different lengths. Neither depends on what
follows. -/
theorem syntaxErrors_at_first_offence (tokens : List Token) (e : SyntaxError) :
    (ofTokens tokens = .error e → ¬ e.IsMiscount →
      ∃ index, Offends (Token.withEnd tokens) e index) ∧
    (ofTokens tokens = .error e ∧ e.IsMiscount ↔
      ∃ front, front <+: tokens ∧ Miscounts front e) ∧
    ∀ front other, Miscounts front e → front <+: other → ofTokens other = .error e := by
  refine ⟨fun refused once => ?_, ⟨?_, ?_⟩, fun _ _ => ofTokens_of_miscounts⟩
  · have ran := ofTokens_eq_error_iff.mp refused
    obtain fails | ⟨_, _, miscounts⟩ := Parser.predictsOr_line.refused ran
    · exact exists_offends once fails
    · exact absurd miscounts.isMiscount once
  · rintro ⟨refused, columns, values, _, found⟩
    have ran := ofTokens_eq_error_iff.mp refused
    obtain ⟨_, rest, _, _, _, here, _⟩ | ⟨front, ahead, miscounts⟩ :=
      Parser.predictsOr_line.refused ran
    · exact absurd (here ▸ found) (ofToken_ne_values _ values)
    · exact ⟨front, Token.prefix_of_prefix_withEnd miscounts.inside ahead, miscounts⟩
  · rintro ⟨front, ahead, miscounts⟩
    exact ⟨ofTokens_of_miscounts miscounts ahead, miscounts.isMiscount⟩

/-- A number is no object to show, whatever follows it. An insert of two values for one column is
refused at the parenthesis that opens them, also when more follows. -/
theorem syntaxErrors_at_first_offence_both :
    let shown : List Token := [⟨⟨.keyword .«show», "SHOW"⟩, 0⟩, ⟨⟨.number, "12"⟩, 5⟩]
    let wrong : SyntaxError := ⟨.showObject, .token "12", 5⟩
    let head : List Token := [⟨⟨.keyword .insert, "INSERT"⟩, 0⟩, ⟨⟨.keyword .into, "INTO"⟩, 7⟩,
      ⟨⟨.identifier, "items"⟩, 12⟩, ⟨⟨.symbol .leftParen, "("⟩, 18⟩, ⟨⟨.identifier, "id"⟩, 19⟩,
      ⟨⟨.symbol .rightParen, ")"⟩, 21⟩, ⟨⟨.keyword .values, "VALUES"⟩, 23⟩]
    let opening : Token := ⟨⟨.symbol .leftParen, "("⟩, 30⟩
    let inner : List Token := [⟨⟨.number, "7"⟩, 31⟩, ⟨⟨.symbol .comma, ","⟩, 32⟩,
      ⟨⟨.keyword .null, "NULL"⟩, 33⟩, ⟨⟨.symbol .rightParen, ")"⟩, 37⟩]
    let uneven : SyntaxError := ⟨.values 1, .values 2, 30⟩
    let more : List Token := head ++ opening :: inner ++ [⟨⟨.symbol .comma, ","⟩, 38⟩]
    ofTokens shown = .error wrong ∧ (∃ index, Offends (Token.withEnd shown) wrong index) ∧
      Miscounts (head ++ opening :: inner) uneven ∧ ofTokens more = .error uneven := by
  intro shown wrong head opening inner uneven more
  have refused : ofTokens shown = .error wrong := rfl
  have once : ¬ wrong.IsMiscount := by
    rintro ⟨_, _, ⟨⟩, _⟩
  have miscounts : Miscounts (head ++ opening :: inner) uneven :=
    ⟨"items", ["id"], [.number 7, .null], head, opening, inner, rfl, by decide, by decide,
      by decide, by decide +kernel, by decide +kernel, rfl⟩
  exact ⟨refused, (syntaxErrors_at_first_offence shown wrong).1 refused once, miscounts,
    (syntaxErrors_at_first_offence more uneven).2.2 _ _ miscounts (List.prefix_append _ _)⟩

end Statement

end ColumnStore
