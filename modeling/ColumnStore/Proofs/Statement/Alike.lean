import ColumnStore.Catalog.Execute
import ColumnStore.Proofs.Statement.Clauses
import ColumnStore.Proofs.Token.Style

/-!
# Alike tokens are read alike

A parser looks at the kinds of tokens and at the texts of names, numbers and strings, and at nothing
else. So two lists of alike tokens are the same statement or are refused for want of the same thing,
and a text may be put in another style without changing what it is read as.
-/

namespace ColumnStore

open Token (Alike)

variable {α β : Type} {t t' : Token} {tokens tokens' : List Token}

/-- The statement that tokens are read as, or what was expected where they are refused. -/
def Statement.verdict (tokens : List Token) : Except SyntaxError.Expected Statement :=
  (ofTokens tokens).mapError (·.expected)

namespace Parser

open SyntaxError (Expected)

/-- Two runs that answer the same and leave alike tokens, or are refused for want of the same. -/
inductive SameRun : Except SyntaxError (α × List Token) → Except SyntaxError (α × List Token) → Prop
  | answered (a : α) {rest rest' : List Token} (alike : List.Forall₂ Alike rest rest') :
      SameRun (.ok (a, rest)) (.ok (a, rest'))
  | refused {e e' : SyntaxError} (same : e.expected = e'.expected) : SameRun (.error e) (.error e')

theorem SameRun.of_ok {a : α} {rest : List Token} {other : Except SyntaxError (α × List Token)}
    (h : SameRun (.ok (a, rest)) other) :
    ∃ rest', other = .ok (a, rest') ∧ List.Forall₂ Alike rest rest' := by
  cases h with
  | answered a alike => exact ⟨_, rfl, alike⟩

theorem SameRun.of_error {e : SyntaxError} {other : Except SyntaxError (α × List Token)}
    (h : SameRun (.error e) other) : ∃ e', other = .error e' ∧ e.expected = e'.expected := by
  cases h with
  | refused same => exact ⟨_, rfl, same⟩

/-- On alike tokens the parsers run the same. -/
def RunsAlike (p p' : Parser α) : Prop :=
  ∀ ⦃tokens tokens'⦄, List.Forall₂ Alike tokens tokens' → SameRun (p.run tokens) (p'.run tokens')

variable {p p' : Parser α} {f f' : α → Parser β} {item : Parser α}

theorem alike_current (h : List.Forall₂ Alike tokens tokens') :
    (current tokens).Alike (current tokens') := by
  cases h with
  | nil => exact .refl _
  | cons here _ => exact here

theorem alike_tail (h : List.Forall₂ Alike tokens tokens') :
    List.Forall₂ Alike tokens.tail tokens'.tail := by
  cases h with
  | nil => exact .nil
  | cons _ later => exact later

/-! ## Composition -/

theorem runsAlike_pure (a : α) : RunsAlike (pure a : Parser α) (pure a) :=
  fun _ _ alike => .answered a alike

theorem runsAlike_fail (expected : Expected) :
    RunsAlike (fail expected : Parser α) (fail expected) :=
  fun _ _ _ => .refused rfl

theorem RunsAlike.bind (hp : RunsAlike p p') (hf : ∀ a, RunsAlike (f a) (f' a)) :
    RunsAlike (p >>= f) (p' >>= f') := by
  intro tokens tokens' alike
  have first := hp alike
  rw [run_bind, run_bind]
  cases ran : p.run tokens with
  | error e =>
    obtain ⟨e', refused, same⟩ := (ran ▸ first).of_error
    rw [refused]
    exact .refused same
  | ok pair =>
    obtain ⟨rest', answered, later⟩ := (ran ▸ first).of_ok
    rw [answered]
    exact hf pair.1 later

theorem runsAlike_peek_bind {f f' : Token.Kind → Parser β}
    (hf : ∀ kind, RunsAlike (f kind) (f' kind)) : RunsAlike (peek >>= f) (peek >>= f') := by
  intro tokens tokens' alike
  rw [run_peek_bind, run_peek_bind, (alike_current alike).1]
  exact hf _ alike

/-- Positions may differ, so what follows must not depend on them. -/
theorem runsAlike_position_bind {f f' : Nat → Parser β} (hf : ∀ n n', RunsAlike (f n) (f' n')) :
    RunsAlike (position >>= f) (position >>= f') :=
  fun _ _ alike => hf _ _ alike

theorem runsAlike_guard {condition : Prop} [Decidable condition] (a : α) {e e' : SyntaxError}
    (same : e.expected = e'.expected) :
    RunsAlike (if condition then pure a else failWith e)
      (if condition then pure a else failWith e') := by
  split
  · exact runsAlike_pure a
  · exact fun _ _ _ => .refused same

theorem runsAlike_accept {choose : Token → Except Expected α}
    (same : ∀ t t', Alike t t' → choose t = choose t') :
    RunsAlike (accept choose) (accept choose) := by
  intro tokens tokens' alike
  simp only [accept]
  rw [same _ _ (alike_current alike)]
  cases choose (current tokens') with
  | error expected => exact .refused rfl
  | ok a => exact .answered a (alike_tail alike)

theorem runsAlike_branch {choose : Token.Kind → Except Expected (Parser α)}
    (each : ∀ kind p, choose kind = .ok p → RunsAlike p p) :
    RunsAlike (branch choose) (branch choose) := by
  intro tokens tokens' alike
  rw [branch, run_bind, run_bind]
  simp only [accept, (alike_current alike).1]
  cases chosen : choose (current tokens').kind with
  | error expected => exact .refused rfl
  | ok next => exact each _ next chosen (alike_tail alike)

/-! ## Tokens and clauses -/

theorem runsAlike_expect (kind : Token.Kind) : RunsAlike (expect kind) (expect kind) :=
  runsAlike_accept fun t t' alike => by rw [alike.1]

theorem runsAlike_keyword (word : Keyword) : RunsAlike (keyword word) (keyword word) :=
  runsAlike_expect _

theorem runsAlike_identifier : RunsAlike identifier identifier := by
  refine runsAlike_accept fun t t' ⟨kind, text⟩ => ?_
  rw [← kind]
  split
  · next named => rw [text (.inl named)]
  · rfl

theorem runsAlike_continues : RunsAlike continues continues :=
  runsAlike_accept fun t t' alike => by rw [separatorOf, separatorOf, alike.1]

theorem runsAlike_list (h : RunsAlike item item) : RunsAlike (list item) (list item) := by
  refine (runsAlike_expect _).bind fun _ tokens tokens' alike => ?_
  show SameRun (items item tokens) (items item tokens')
  fun_induction items item tokens generalizing tokens' with
  | case1 tokens e refused =>
    obtain ⟨e', other, same⟩ := (refused ▸ h alike).of_error
    rw [items_eq, other]
    exact .refused same
  | case2 tokens a left taken e refused =>
    obtain ⟨left', other, alike⟩ := (taken ▸ h alike).of_ok
    obtain ⟨e', last, same⟩ := (refused ▸ runsAlike_continues alike).of_error
    simp only [items_eq item tokens', other, last]
    exact .refused same
  | case3 tokens a left taken right more =>
    obtain ⟨left', other, alike⟩ := (taken ▸ h alike).of_ok
    obtain ⟨right', last, alike⟩ := (more ▸ runsAlike_continues alike).of_ok
    simp only [items_eq item tokens', other, last]
    exact .answered [a] alike
  | case4 tokens a left taken right more _ e refused ih =>
    obtain ⟨left', other, alike⟩ := (taken ▸ h alike).of_ok
    obtain ⟨right', comma, alike⟩ := (more ▸ runsAlike_continues alike).of_ok
    obtain ⟨e', last, same⟩ := (refused ▸ ih _ alike).of_error
    simp only [items_eq item tokens', other, comma, last]
    exact .refused same
  | case5 tokens a left taken right more _ as rest others ih =>
    obtain ⟨left', other, alike⟩ := (taken ▸ h alike).of_ok
    obtain ⟨right', comma, alike⟩ := (more ▸ runsAlike_continues alike).of_ok
    obtain ⟨rest', last, alike⟩ := (others ▸ ih _ alike).of_ok
    simp only [items_eq item tokens', other, comma, last]
    exact .answered (a :: as) alike

theorem runsAlike_namesAfter :
    RunsAlike ⟨namesAfter, namesAfter_suffix⟩ ⟨namesAfter, namesAfter_suffix⟩ := by
  intro tokens tokens' alike
  show SameRun (namesAfter tokens) (namesAfter tokens')
  fun_induction namesAfter tokens generalizing tokens' with
  | case1 tokens comma e refused =>
    rw [(alike_current alike).1] at comma
    obtain ⟨e', other, same⟩ := (refused ▸ runsAlike_identifier (alike_tail alike)).of_error
    rw [namesAfter_eq, if_pos comma, other]
    exact .refused same
  | case2 tokens comma name left taken _ e refused ih =>
    rw [(alike_current alike).1] at comma
    obtain ⟨left', other, alike⟩ := (taken ▸ runsAlike_identifier (alike_tail alike)).of_ok
    obtain ⟨e', last, same⟩ := (refused ▸ ih alike).of_error
    simp only [namesAfter_eq tokens', if_pos comma, other, last]
    exact .refused same
  | case3 tokens comma name left taken _ names rest others ih =>
    rw [(alike_current alike).1] at comma
    obtain ⟨left', other, alike⟩ := (taken ▸ runsAlike_identifier (alike_tail alike)).of_ok
    obtain ⟨rest', last, alike⟩ := (others ▸ ih alike).of_ok
    simp only [namesAfter_eq tokens', if_pos comma, other, last]
    exact .answered (name :: names) alike
  | case4 tokens ends =>
    rw [(alike_current alike).1] at ends
    rw [namesAfter_eq, if_neg ends]
    exact .answered [] alike

theorem runsAlike_varcharLength : RunsAlike varcharLength varcharLength := by
  refine runsAlike_accept fun t t' ⟨kind, text⟩ => ?_
  rw [lengthOf, lengthOf, ← kind]
  split
  · next number => rw [text (.inr (.inl number))]
  · rfl

theorem literalOf_alike (expected : Expected) (alike : t.Alike t') :
    literalOf expected t = literalOf expected t' := by
  obtain ⟨kind, text⟩ := alike
  rw [literalOf, literalOf, ← kind]
  split
  · next number => rw [text (.inr (.inl number))]
  · next string => rw [text (.inr (.inr string))]
  · rfl
  · rfl

theorem runsAlike_storedLiteral : RunsAlike storedLiteral storedLiteral :=
  runsAlike_accept fun _ _ => literalOf_alike _

theorem runsAlike_insertedLiteral : RunsAlike insertedLiteral insertedLiteral :=
  runsAlike_accept fun t t' alike => by
    rw [insertedLiteralOf, insertedLiteralOf, alike.1, literalOf_alike _ alike]

theorem runsAlike_columnType : RunsAlike columnType columnType := by
  refine runsAlike_branch fun kind p chosen => ?_
  split at chosen <;> cases chosen
  · exact runsAlike_pure _
  · exact (runsAlike_expect _).bind fun _ => runsAlike_varcharLength.bind fun _ =>
      (runsAlike_expect _).bind fun _ => runsAlike_pure _

theorem runsAlike_definitions : RunsAlike (list columnDefinition) (list columnDefinition) :=
  runsAlike_list (runsAlike_identifier.bind fun _ => runsAlike_columnType.bind fun _ =>
    runsAlike_pure _)

theorem runsAlike_names : RunsAlike (list identifier) (list identifier) :=
  runsAlike_list runsAlike_identifier

theorem runsAlike_inTable : RunsAlike inTable inTable :=
  (runsAlike_keyword _).bind fun _ => (runsAlike_keyword _).bind fun _ => runsAlike_identifier

theorem runsAlike_defaults : RunsAlike defaults defaults := by
  refine runsAlike_peek_bind fun kind => ?_
  split
  · exact (runsAlike_keyword _).bind fun _ =>
      (runsAlike_list runsAlike_storedLiteral).bind fun _ => runsAlike_pure _
  · exact runsAlike_pure _

theorem runsAlike_projection : RunsAlike projection projection := by
  refine (runsAlike_accept fun t t' ⟨kind, text⟩ => ?_).bind fun first => ?_
  · rw [firstColumnOf, firstColumnOf, ← kind]
    split
    · rfl
    · next named => rw [text (.inl named)]
    · rfl
  · cases first with
    | none => exact runsAlike_pure _
    | some name => exact runsAlike_namesAfter.bind fun _ => runsAlike_pure _

/-! ## Statements -/

theorem runsAlike_create : RunsAlike create create := by
  refine runsAlike_branch fun kind p chosen => ?_
  split at chosen <;> cases chosen
  · exact runsAlike_identifier.bind fun _ => runsAlike_pure _
  · exact runsAlike_identifier.bind fun _ => runsAlike_definitions.bind fun _ => runsAlike_pure _

theorem runsAlike_drop : RunsAlike drop drop := by
  refine runsAlike_branch fun kind p chosen => ?_
  split at chosen <;> cases chosen
  · exact runsAlike_identifier.bind fun _ => runsAlike_pure _
  · exact runsAlike_identifier.bind fun _ => runsAlike_pure _
  · exact (runsAlike_keyword _).bind fun _ => (runsAlike_keyword _).bind fun _ =>
      runsAlike_identifier.bind fun _ => runsAlike_inTable.bind fun _ => runsAlike_pure _

theorem runsAlike_use : RunsAlike use use := by
  refine runsAlike_accept fun t t' ⟨kind, text⟩ => ?_
  rw [← kind]
  split
  · rfl
  · next named => rw [text (.inl named)]
  · rfl

theorem runsAlike_show : RunsAlike «show» «show» := by
  refine runsAlike_branch fun kind p chosen => ?_
  split at chosen <;> cases chosen
  · exact runsAlike_pure _
  · exact runsAlike_pure _
  · exact (runsAlike_keyword _).bind fun _ => runsAlike_pure _

theorem runsAlike_insert : RunsAlike insert insert :=
  (runsAlike_keyword _).bind fun _ => runsAlike_identifier.bind fun _ =>
    runsAlike_names.bind fun _ => (runsAlike_keyword _).bind fun _ =>
      runsAlike_position_bind fun _ _ => (runsAlike_list runsAlike_insertedLiteral).bind fun _ =>
        runsAlike_guard _ rfl

theorem runsAlike_alter : RunsAlike alter alter :=
  (runsAlike_accept fun t t' alike => by rw [renamingOf, renamingOf, alike.1]).bind fun _ =>
    runsAlike_identifier.bind fun _ => (runsAlike_keyword _).bind fun _ =>
      runsAlike_identifier.bind fun _ => runsAlike_pure _

theorem runsAlike_add : RunsAlike add add :=
  (runsAlike_keyword _).bind fun _ => runsAlike_definitions.bind fun _ =>
    (runsAlike_keyword _).bind fun _ => (runsAlike_keyword _).bind fun _ =>
      runsAlike_identifier.bind fun _ => runsAlike_defaults.bind fun _ => runsAlike_pure _

theorem runsAlike_remove : RunsAlike remove remove :=
  (runsAlike_keyword _).bind fun _ => (runsAlike_keyword _).bind fun _ =>
    runsAlike_identifier.bind fun _ => runsAlike_names.bind fun _ => runsAlike_pure _

theorem runsAlike_rename : RunsAlike rename rename :=
  (runsAlike_keyword _).bind fun _ => runsAlike_identifier.bind fun _ =>
    (runsAlike_keyword _).bind fun _ => runsAlike_identifier.bind fun _ =>
      runsAlike_inTable.bind fun _ => runsAlike_pure _

theorem runsAlike_modify : RunsAlike modify modify :=
  (runsAlike_keyword _).bind fun _ => runsAlike_definitions.bind fun _ =>
    runsAlike_inTable.bind fun _ => runsAlike_pure _

theorem runsAlike_truncate : RunsAlike truncate truncate :=
  (runsAlike_keyword _).bind fun _ => runsAlike_identifier.bind fun _ => runsAlike_pure _

theorem runsAlike_set : RunsAlike set set :=
  (runsAlike_keyword _).bind fun _ => runsAlike_identifier.bind fun _ =>
    runsAlike_inTable.bind fun _ => (runsAlike_keyword _).bind fun _ =>
      runsAlike_storedLiteral.bind fun _ => runsAlike_pure _

theorem runsAlike_select : RunsAlike select select :=
  runsAlike_projection.bind fun _ => (runsAlike_keyword _).bind fun _ =>
    runsAlike_identifier.bind fun _ => runsAlike_pure _

theorem runsAlike_statement : RunsAlike statement statement := by
  refine runsAlike_branch fun kind p chosen => ?_
  split at chosen <;> cases chosen
  · exact runsAlike_create
  · exact runsAlike_drop
  · exact runsAlike_use
  · exact runsAlike_show
  · exact runsAlike_insert
  · exact runsAlike_alter
  · exact runsAlike_add
  · exact runsAlike_remove
  · exact runsAlike_rename
  · exact runsAlike_modify
  · exact runsAlike_truncate
  · exact runsAlike_set
  · exact runsAlike_select

theorem runsAlike_line : RunsAlike line line := by
  refine runsAlike_statement.bind fun _ => (runsAlike_expect _).bind fun _ =>
    runsAlike_peek_bind fun kind => ?_
  split
  · exact runsAlike_pure _
  · exact runsAlike_fail _

end Parser

namespace Token

theorem alike_getLast? {last : Token} (alike : List.Forall₂ Alike tokens tokens')
    (h : tokens.getLast? = some last) :
    ∃ last', tokens'.getLast? = some last' ∧ last.Alike last' := by
  induction alike with
  | nil => cases h
  | @cons t t' _ _ here later ih =>
    cases later with
    | nil =>
      cases h
      exact ⟨t', rfl, here⟩
    | cons next later =>
      rw [List.getLast?_cons_cons] at h ⊢
      exact ih h

/-- The end that is added to alike tokens, or found behind them, is alike. -/
theorem alike_withEnd (alike : List.Forall₂ Alike tokens tokens') :
    List.Forall₂ Alike (withEnd tokens) (withEnd tokens') := by
  have added (n n' : Nat) : Alike ⟨⟨.endOfInput, ""⟩, n⟩ ⟨⟨.endOfInput, ""⟩, n'⟩ := .of_lexeme rfl
  cases ends : tokens.getLast? with
  | none =>
    obtain rfl := List.getLast?_eq_none_iff.mp ends
    cases alike
    exact .cons (.refl _) .nil
  | some last =>
    obtain ⟨last', ends', same⟩ := alike_getLast? alike ends
    simp only [withEnd, ends, ends', same.1]
    split
    · exact alike
    · exact alike_append alike (.cons (added _ _) .nil)

end Token

namespace Statement

/-- Alike tokens are the same statement or are refused for want of the same. -/
theorem verdict_of_alike (alike : List.Forall₂ Alike tokens tokens') :
    verdict tokens = verdict tokens' := by
  have same := Parser.runsAlike_line (Token.alike_withEnd alike)
  rw [verdict, verdict, ofTokens, ofTokens]
  cases ran : Parser.line.run (Token.withEnd tokens) with
  | error e =>
    obtain ⟨e', other, expected⟩ := (ran ▸ same).of_error
    rw [other]
    exact congrArg Except.error expected
  | ok pair =>
    obtain ⟨rest', other, _⟩ := (ran ▸ same).of_ok
    rw [other]

/-- Neither positions nor the texts of keywords and symbols make a difference to what tokens are
read as, and neither do white space between tokens and the letter case of keywords in a text. -/
theorem verdict_ignores_style :
    (∀ tokens tokens' : List Token, List.Forall₂ Alike tokens tokens' →
      verdict tokens = verdict tokens') ∧
    ∀ (text text' : String) (tokens : List Token), Token.ofText text = .ok tokens →
      Token.SameStyle text text' →
        ∃ tokens', Token.ofText text' = .ok tokens' ∧ verdict tokens' = verdict tokens := by
  refine ⟨fun _ _ => verdict_of_alike, fun text text' tokens read style => ?_⟩
  induction style with
  | refl => exact ⟨tokens, read, rfl⟩
  | tail _ change ih =>
    obtain ⟨middle, readMiddle, same⟩ := ih
    obtain ⟨tokens', read', alike⟩ := Token.alike_of_restyles readMiddle change
    exact ⟨tokens', read', (verdict_of_alike alike).symm.trans same⟩

/-- Tokens with other positions and texts are the same statement; a keyword directly behind a number
is written in small and capital letters and moved away, and a statement is still what is wanted. -/
theorem verdict_ignores_style_behind_number :
    let tokens : List Token := [⟨⟨.keyword .«show», "SHOW"⟩, 0⟩, ⟨⟨.keyword .tables, "TABLES"⟩, 5⟩,
      ⟨⟨.symbol .semicolon, ";"⟩, 11⟩]
    let tokens' : List Token := [⟨⟨.keyword .«show», ""⟩, 9⟩, ⟨⟨.keyword .tables, "_"⟩, 9⟩,
      ⟨⟨.symbol .semicolon, "*"⟩, 0⟩]
    let numbered : List Token := [⟨⟨.number, "12"⟩, 0⟩, ⟨⟨.keyword .«in», "in"⟩, 2⟩, Token.ending 4]
    verdict tokens = .ok .showTables ∧ verdict tokens = verdict tokens' ∧
      Token.ofText "12in" = .ok numbered ∧ Token.SameStyle "12in" "12\t iN" ∧
      verdict numbered = .error .statement ∧
      ∃ moved, Token.ofText "12\t iN" = .ok moved ∧ verdict moved = verdict numbered := by
  intro tokens tokens' numbered
  obtain ⟨lists, texts⟩ := verdict_ignores_style
  have read : Token.ofText "12in" = .ok numbered := by decide +kernel
  have readAgain : Token.ofText "12iN" = .ok [⟨⟨.number, "12"⟩, 0⟩, ⟨⟨.keyword .«in», "iN"⟩, 2⟩,
    Token.ending 4] := by decide +kernel
  have recased : Token.Restyles "12in" "12iN" :=
    ⟨numbered, read, .recased ⟨⟨.keyword .«in», "in"⟩, 2⟩ .«in» ['i', 'N'] (by decide) rfl
      (by unfold Token.SameLetters; decide)⟩
  have blank : ∀ c ∈ ['\t', ' '], Text.isBlank c = true :=
    List.forall_mem_cons.mpr ⟨by decide, List.forall_mem_singleton.mpr (by decide)⟩
  have spaced : Token.Restyles "12iN" "12\t iN" :=
    ⟨_, readAgain, .spaced 2 ['\t', ' '] (by decide) blank (by decide)⟩
  have style : Token.SameStyle "12in" "12\t iN" := .tail (.single recased) spaced
  exact ⟨by decide +kernel, lists tokens tokens' (by decide), read, style, by decide +kernel,
    texts _ _ _ read style⟩

end Statement

end ColumnStore
