import ColumnStore.Catalog.Execute
import ColumnStore.Proofs.Statement.Grammar
import ColumnStore.Proofs.Token.Layout
import ColumnStore.Statement.Printable

/-!
# Written statements are read back

The text of a printable statement lays out the lexemes of its shape, and each of them stands for
the terminal it was written for. So reading gives the statement back, whatever the strings in it
contain. No other statement is ever read: what a text is read as is printable, because the tokens
of a text are proper lexemes.
-/

namespace ColumnStore

open Token (Lexeme IsName IsWord Layout ending)

namespace Terminal

variable {t : Terminal} {token : Token}

/-- Whether the lexeme of a terminal is read as that terminal. -/
def IsPrintable : Terminal → Prop
  | name text => IsName text
  | length limit => ColumnType.isValidLength limit = true
  | literal (.number n) => 0 ≤ n
  | _ => True

instance : DecidablePred IsPrintable
  | name text => inferInstanceAs (Decidable (IsName text))
  | length _ => inferInstanceAs (Decidable (_ = true))
  | literal (.number n) => inferInstanceAs (Decidable (0 ≤ n))
  | literal (.string _) | literal .null | literal .default | keyword _ | symbol _ =>
    .isTrue trivial

@[simp]
theorem isPrintable_keyword (word : Keyword) : (keyword word).IsPrintable := trivial

@[simp]
theorem isPrintable_symbol (s : Symbol) : (symbol s).IsPrintable := trivial

@[simp]
theorem isPrintable_name (text : String) : (name text).IsPrintable ↔ IsName text := Iff.rfl

@[simp]
theorem isPrintable_length (limit : UInt32) :
    (length limit).IsPrintable ↔ ColumnType.isValidLength limit = true := Iff.rfl

@[simp]
theorem isPrintable_literal (l : Literal) :
    (literal l).IsPrintable ↔ ∀ n, .number n = l → 0 ≤ n := by
  cases l <;> simp [IsPrintable]

theorem isProper_ofKeyword (word : Keyword) : (Lexeme.ofKeyword word).IsProper := by
  have each : ∀ k ∈ Keyword.all, IsWord k.spelling.toList ∧
      Keyword.ofSpelling? (Text.upperCase k.spelling) = some k := by
    decide +kernel
  exact each word word.mem_all

theorem isProper_lexeme (h : t.IsPrintable) : t.lexeme.IsProper := by
  cases t with
  | keyword word => exact isProper_ofKeyword word
  | symbol s => exact rfl
  | name text => exact h
  | length limit =>
    have digits := Decimal.isDigits_digits limit.toNat
    simpa [lexeme, Lexeme.IsProper] using digits
  | literal l =>
    cases l with
    | number n =>
      have digits := Decimal.isDigits_digits n.toInt.natAbs
      simpa [lexeme, Literal.lexeme, Lexeme.IsProper, Decimal.toList_render h] using digits
    | string s => exact trivial
    | null => exact isProper_ofKeyword .null
    | default => exact isProper_ofKeyword .default

/-- A token with the lexeme of a printable terminal stands for it. -/
theorem matches_lexeme (h : t.IsPrintable) (same : t.lexeme = token.toLexeme) :
    t.Matches token := by
  have kind : token.kind = t.lexeme.kind := congrArg Lexeme.kind same.symm
  have text : token.text = t.lexeme.text := congrArg Lexeme.text same.symm
  cases t with
  | keyword word => exact kind
  | symbol s => exact kind
  | name name => exact ⟨kind, text⟩
  | length limit => exact ⟨kind, text ▸ Decimal.readUInt32?_digits limit, h⟩
  | literal l =>
    cases l with
    | number n => exact ⟨kind, text ▸ Decimal.readInt64?_render h⟩
    | string s => exact ⟨kind, text⟩
    | null => exact kind
    | default => exact kind

/-- Whatever a proper lexeme stands for is printable. -/
theorem isPrintable_of_matches (h : t.Matches token) (proper : token.IsProper) :
    t.IsPrintable := by
  cases t with
  | name name =>
    obtain ⟨kind, rfl⟩ := h
    simp only [Lexeme.IsProper, kind] at proper
    exact proper
  | length limit => exact h.2.2
  | literal l =>
    cases l with
    | number n =>
      obtain ⟨kind, read⟩ := h
      simp only [Lexeme.IsProper, kind] at proper
      rw [Decimal.readInt64?_of_isDigits proper] at read
      exact Decimal.readPlainInt64?_nonneg read
    | _ => exact trivial
  | _ => exact trivial

/-! ## The terminals of a statement -/

theorem forall_separated {P : Terminal → Prop} (comma : P (.symbol .comma))
    (items : List (List Terminal)) :
    (∀ t ∈ separated items, P t) ↔ ∀ item ∈ items, ∀ t ∈ item, P t := by
  induction items with
  | nil => simp [separated]
  | cons item items ih =>
    by_cases alone : items = []
    · simp [alone, separated]
    · rw [Parser.separated_cons alone]
      simp only [List.forall_mem_append, List.forall_mem_singleton, List.forall_mem_cons, ih,
        comma, and_true]

@[simp]
theorem isPrintable_parenthesized (items : List (List Terminal)) :
    (∀ t ∈ parenthesized items, t.IsPrintable) ↔ ∀ item ∈ items, ∀ t ∈ item, t.IsPrintable := by
  rw [← forall_separated (isPrintable_symbol .comma) items, parenthesized]
  simp only [List.forall_mem_append, List.forall_mem_cons, isPrintable_symbol, true_and]
  simp

@[simp]
theorem isPrintable_ofNames (names : List String) :
    (∀ t ∈ ofNames names, t.IsPrintable) ↔ ∀ name ∈ names, IsName name := by
  simp [ofNames]

@[simp]
theorem isPrintable_ofLiterals (literals : List Literal) :
    (∀ t ∈ ofLiterals literals, t.IsPrintable) ↔ ∀ n, .number n ∈ literals → 0 ≤ n := by
  simp only [ofLiterals, isPrintable_parenthesized, List.forall_mem_map,
    List.forall_mem_singleton, isPrintable_literal]
  exact ⟨fun h n member => h _ member n rfl, fun h l member n same => h n (same ▸ member)⟩

theorem isPrintable_definition (d : Column.Definition) :
    (∀ t ∈ d.terminals, t.IsPrintable) ↔ IsName d.name ∧
      ∀ limit, d.type = .varchar limit → ColumnType.isValidLength limit = true := by
  rw [Column.Definition.terminals]
  cases d.type <;> simp [ColumnType.terminals]

end Terminal

namespace Statement

open Terminal

variable {s : Statement}

@[simp]
theorem isPrintable_ofDefinitions (columns : List Column.Definition) :
    (∀ t ∈ ofDefinitions columns, t.IsPrintable) ↔ (∀ d ∈ columns, IsName d.name) ∧
      ∀ d ∈ columns, ∀ limit, d.type = .varchar limit →
        ColumnType.isValidLength limit = true := by
  simp only [ofDefinitions, isPrintable_parenthesized, List.forall_mem_map,
    isPrintable_definition]
  exact forall₂_and

@[simp]
theorem isPrintable_inTable (table : String) :
    (∀ t ∈ inTable table, t.IsPrintable) ↔ IsName table := by
  simp [inTable]

theorem isPrintable_columns (names : List String) :
    (∀ t ∈ (Projection.columns names).terminals, t.IsPrintable) ↔
      ∀ name ∈ names, IsName name := by
  rw [Projection.terminals, forall_separated (isPrintable_symbol .comma)]
  simp

theorem isPrintable_terminals (s : Statement) :
    (∀ t ∈ s.terminals, t.IsPrintable) ↔ (∀ name ∈ s.names, IsName name) ∧
      (∀ d ∈ s.definitions, ∀ limit, d.type = .varchar limit →
        ColumnType.isValidLength limit = true) ∧
      ∀ n, .number n ∈ s.literals → 0 ≤ n := by
  cases s
  case addColumns table columns defaults =>
    cases defaults <;>
      (simp only [terminals, ofDefaults, names, definitions, literals, List.forall_mem_append,
        List.forall_mem_cons]
       simp
       tauto)
  case select table projection =>
    cases projection <;>
      (simp only [terminals, names, definitions, literals, List.forall_mem_append,
        List.forall_mem_cons, isPrintable_columns]
       simp [Projection.terminals, and_comm])
  all_goals
    simp only [terminals, names, definitions, literals, List.forall_mem_append,
      List.forall_mem_cons]
    simp
  -- the shape may name the table last
  all_goals tauto

theorem printable_iff : s.Printable ↔ s.Grammatical ∧ ∀ t ∈ s.terminals, t.IsPrintable := by
  rw [isPrintable_terminals]
  exact ⟨fun h => ⟨h.grammatical, h.names, h.lengths, h.numbers⟩,
    fun ⟨grammatical, names, lengths, numbers⟩ => ⟨grammatical, names, lengths, numbers⟩⟩

end Statement

/-! ## The text of a statement -/

namespace Token

theorem not_takes_space {l : Lexeme} : ¬ l.Takes ' ' := by
  have word : ¬ isWordPart ' ' = true := by decide +kernel
  intro taken
  rw [Lexeme.Takes] at taken
  split at taken
  · exact word taken
  · exact word taken
  · exact absurd taken (by decide)
  · exact absurd taken (by decide)
  · exact taken
  · exact taken

/-- Proper lexemes with a space between two are laid out as they are. -/
theorem exists_layout_of_proper {lexemes : List Lexeme} (proper : ∀ l ∈ lexemes, l.IsProper)
    (position : Nat) :
    ∃ body length, body.map (·.toLexeme) = lexemes ∧
      Layout position ([' '].intercalate (lexemes.map (·.spelling))) (body ++ [ending length]) := by
  induction lexemes generalizing position with
  | nil => exact ⟨[], position, rfl, .finish position⟩
  | cons l lexemes ih =>
    obtain ⟨here, later⟩ := List.forall_mem_cons.mp proper
    cases lexemes with
    | nil =>
      have layout : Layout position (l.spelling ++ [])
          [⟨l, position⟩, ending (position + l.spelling.length)] :=
        .token here (by simp) (.finish _)
      exact ⟨[⟨l, position⟩], _, rfl, by simpa [List.intercalate] using layout⟩
    | cons next lexemes =>
      obtain ⟨body, length, same, layout⟩ := ih later (position + l.spelling.length + 1)
      refine ⟨⟨l, position⟩ :: body, length, by rw [← same]; rfl, ?_⟩
      have space : ∀ c ∈ (' ' :: [' '].intercalate ((next :: lexemes).map (·.spelling))).head?,
          ¬ l.Takes c := by
        rintro c ⟨⟩
        exact not_takes_space
      have layout := Layout.token here space (.blank (by decide +kernel) layout)
      simpa [List.intercalate] using layout

theorem beforeEnd_of_proper {body : List Token} (proper : ∀ token ∈ body, token.IsProper)
    (length : Nat) : beforeEnd (body ++ [ending length]) = body := by
  have inside : ∀ token ∈ body, decide (token.kind ≠ .endOfInput) = true := by
    intro token member
    refine decide_eq_true fun ends => ?_
    have proper := proper token member
    simp only [Lexeme.IsProper, ends] at proper
  rw [beforeEnd, List.takeWhile_append_of_pos inside]
  simp [ending]

end Token

namespace Statement

variable {text : String} {tokens : List Token}

theorem exists_tokens_of_printable (h : s.Printable) :
    ∃ tokens, Token.ofText s.toText = .ok tokens ∧ ofTokens tokens = .ok s := by
  obtain ⟨grammatical, printable⟩ := printable_iff.mp h
  have printable : ∀ t ∈ s.terminals ++ [.symbol .semicolon], t.IsPrintable :=
    List.forall_mem_append.mpr ⟨printable, by simp⟩
  have proper : ∀ l ∈ s.lexemes, l.IsProper :=
    List.forall_mem_map.mpr fun t member => Terminal.isProper_lexeme (printable t member)
  obtain ⟨body, length, same, layout⟩ := Token.exists_layout_of_proper proper 0
  refine ⟨body ++ [ending length], ?_, ofTokens_eq_ok_iff_isWrittenBy.mpr ⟨grammatical, ?_⟩⟩
  · rw [Token.ofText, Token.scan_eq_ok_iff, toText, String.toList_ofList]
    exact layout
  · rw [← same] at proper
    rw [Token.beforeEnd_of_proper (List.forall_mem_map.mp proper)]
    have written : List.Forall₂ Eq s.lexemes (body.map (·.toLexeme)) := by
      rw [same, List.forall₂_eq_eq_eq]
    rw [lexemes, List.forall₂_map_left_iff, List.forall₂_map_right_iff] at written
    have both := (List.forall₂_and_left _ _).mpr ⟨printable, written⟩
    exact both.imp fun t token pair => Terminal.matches_lexeme pair.1 pair.2

theorem printable_of_ofTokens (read : Token.ofText text = .ok tokens)
    (parsed : ofTokens tokens = .ok s) : s.Printable := by
  obtain ⟨body, length, rfl, proper⟩ :=
    Token.exists_proper_of_layout (Token.scan_eq_ok_iff.mp read)
  obtain ⟨grammatical, matching⟩ := ofTokens_eq_ok_iff_isWrittenBy.mp parsed
  rw [Token.beforeEnd_of_proper proper] at matching
  refine printable_iff.mpr ⟨grammatical, fun t member => ?_⟩
  obtain ⟨i, bound, rfl⟩ :=
    List.mem_iff_getElem.mp (List.mem_append_left [.symbol .semicolon] member)
  have here := matching.get bound (matching.length_eq ▸ bound)
  exact Terminal.isPrintable_of_matches here (proper _ (List.getElem_mem _))

theorem ofText_eq_ok_iff :
    ofText text = .ok s ↔ ∃ tokens, Token.ofText text = .ok tokens ∧ ofTokens tokens = .ok s := by
  rw [ofText]
  cases Token.ofText text with
  | error e => simp
  | ok tokens => cases parsed : ofTokens tokens <;> simp [parsed, Except.mapError]

theorem ofText_toText (h : s.Printable) : ofText s.toText = .ok s :=
  ofText_eq_ok_iff.mpr (exists_tokens_of_printable h)

theorem printable_of_ofText (h : ofText text = .ok s) : s.Printable := by
  obtain ⟨tokens, read, parsed⟩ := ofText_eq_ok_iff.mp h
  exact printable_of_ofTokens read parsed

/-- A printable statement is read back from its text, and what a text is read as is printable. -/
theorem printable_text_round_trip :
    (∀ s : Statement, s.Printable →
      ∃ tokens, Token.ofText s.toText = .ok tokens ∧ ofTokens tokens = .ok s) ∧
    ∀ (text : String) (tokens : List Token) (s : Statement),
      Token.ofText text = .ok tokens → ofTokens tokens = .ok s → s.Printable :=
  ⟨fun _ h => exists_tokens_of_printable h,
    fun _ _ _ read parsed => printable_of_ofTokens read parsed⟩

/-- Quotes, semicolons and keywords inside a string stay inside. -/
theorem printable_text_round_trip_quotes :
    let s := insert "notes" ["id", "text"] [.number 7, .string "'); DROP TABLE notes; --'"]
    s.Printable ∧ ∃ tokens, Token.ofText s.toText = .ok tokens ∧ ofTokens tokens = .ok s := by
  intro s
  have printable : s.Printable := printable_iff.mpr (by decide +kernel)
  exact ⟨printable, printable_text_round_trip.1 s printable⟩

end Statement

end ColumnStore
