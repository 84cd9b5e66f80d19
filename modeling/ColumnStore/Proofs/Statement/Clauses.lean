import ColumnStore.Proofs.Statement.Reading

/-!
# Clauses

The parts that several statements share or that end on their own: types, definitions, literals,
lists, the defaults of an addition and the columns of a query. The last two have no closing
parenthesis, so what they read depends on the token that follows.
-/

namespace ColumnStore.Parser

open Statement

/-! ## Types, definitions and literals -/

theorem reads_varcharLength :
    Reads varcharLength fun limit shape => shape = [.length limit] := by
  apply reads_accept .length
  intro limit token
  simp only [lengthOf, Terminal.Matches]
  split
  · next number =>
    cases read : Decimal.readUInt32? token.text with
    | none => simp
    | some found =>
      by_cases valid : ColumnType.isValidLength found = true
      · simp only [valid, if_true, Except.ok.injEq, number, true_and, Option.some.injEq]
        constructor
        · rintro rfl
          exact ⟨rfl, valid⟩
        · exact fun same => same.1
      · simp only [valid, number, true_and, Option.some.injEq]
        constructor
        · rintro ⟨⟩
        · rintro ⟨rfl, other⟩
          exact absurd other valid
  · next other => simpa using fun number => absurd number other

theorem reads_columnType : Reads columnType fun type shape => shape = type.terminals := by
  apply ReadsBefore.branch
  · intro kind p chosen
    split at chosen
    · cases chosen
      refine ⟨.int, rfl, (reads_pure _).congr fun type shape => ?_⟩
      cases type <;> simp [ColumnType.terminals]
    · cases chosen
      refine ⟨.varchar, rfl, ((reads_symbol _).bind fun _ => reads_varcharLength.bind fun limit =>
        (reads_symbol _).bind fun _ => reads_pure _).congr fun type shape => ?_⟩
      cases type <;> simp [ColumnType.terminals]
    · cases chosen
  · rintro type _ rfl
    cases type with
    | integer => exact ⟨.int, _, _, rfl, rfl⟩
    | varchar limit => exact ⟨.varchar, _, _, rfl, rfl⟩

theorem reads_columnDefinition :
    Reads columnDefinition fun d shape => d.default = none ∧ shape = d.terminals := by
  refine (reads_identifier.bind fun name => reads_columnType.bind fun type =>
    reads_pure _).congr fun d shape => ?_
  constructor
  · rintro ⟨name, _, _, rfl, ⟨type, _, _, rfl, ⟨rfl, rfl⟩, rfl⟩, rfl⟩
    exact ⟨rfl, by simp [Column.Definition.terminals]⟩
  · obtain ⟨name, type, default⟩ := d
    rintro ⟨rfl, rfl⟩
    exact ⟨name, _, _, rfl, ⟨type, _, _, rfl, ⟨rfl, rfl⟩, rfl⟩, by
      simp [Column.Definition.terminals]⟩

theorem literalOf_eq_ok_iff {expected : SyntaxError.Expected} {token : Token} {l : Literal} :
    literalOf expected token = .ok l ↔ l ≠ .default ∧ (Terminal.literal l).Matches token := by
  rw [literalOf]
  split
  · next number =>
    cases read : Decimal.readInt64? token.text <;> cases l <;> simp [Terminal.Matches, number, read]
  · next string => cases l <;> simp [Terminal.Matches, string]
  · next null => cases l <;> simp [Terminal.Matches, null]
  · next number string null => cases l <;> simp_all [Terminal.Matches]

theorem reads_storedLiteral :
    Reads storedLiteral fun l shape => l ≠ .default ∧ shape = [.literal l] := by
  refine (reads_accept_any (R := fun l t => l ≠ .default ∧ t = .literal l) ?_).congr ?_
  · intro l token
    rw [literalOf_eq_ok_iff]
    constructor
    · rintro ⟨stored, here⟩
      exact ⟨_, ⟨stored, rfl⟩, here⟩
    · rintro ⟨_, ⟨stored, rfl⟩, here⟩
      exact ⟨stored, here⟩
  · intro l shape
    simp

theorem reads_insertedLiteral :
    Reads insertedLiteral fun l shape => shape = [.literal l] := by
  apply reads_accept .literal
  intro l token
  rw [insertedLiteralOf]
  by_cases default : token.kind = .keyword .default
  · cases l <;> simp [Terminal.Matches, default]
  · rw [if_neg default, literalOf_eq_ok_iff]
    cases l <;> simp [Terminal.Matches, default]

/-! ## Lists -/

theorem reads_names :
    Reads (list identifier) fun names shape => names ≠ [] ∧ shape = Terminal.ofNames names := by
  have item : Reads identifier fun name shape => True ∧ shape = [.name name] :=
    reads_identifier.congr fun _ _ => by simp
  exact item.list.congr fun names shape => by simp [Terminal.ofNames]

theorem reads_insertedLiterals :
    Reads (list insertedLiteral) fun values shape =>
      values ≠ [] ∧ shape = Terminal.ofLiterals values := by
  have item : Reads insertedLiteral fun l shape => True ∧ shape = [.literal l] :=
    reads_insertedLiteral.congr fun _ _ => by simp
  exact item.list.congr fun values shape => by simp [Terminal.ofLiterals]

theorem reads_storedLiterals :
    Reads (list storedLiteral) fun literals shape =>
      StoredLiterals literals ∧ shape = Terminal.ofLiterals literals := by
  refine reads_storedLiteral.list.congr fun literals shape => ?_
  have none : (∀ l ∈ literals, l ≠ .default) ↔ Literal.default ∉ literals :=
    ⟨fun h member => h _ member rfl, fun h l member same => h (same ▸ member)⟩
  rw [none, StoredLiterals, Terminal.ofLiterals]

theorem reads_definitions :
    Reads (list columnDefinition) fun columns shape =>
      PlainDefinitions columns ∧ shape = ofDefinitions columns :=
  reads_columnDefinition.list

theorem reads_inTable : Reads inTable fun table shape => shape = Statement.inTable table := by
  refine ((reads_keyword _).bind fun _ => (reads_keyword _).bind fun _ =>
    reads_identifier).congr fun table shape => ?_
  simp [Statement.inTable]

/-! ## Clauses that end where they can -/

/-- Without the list of defaults the next token must not begin one. -/
theorem reads_defaults :
    ReadsBefore (· ≠ .keyword .default) defaults fun defaults shape =>
      (∀ literals, defaults = some literals → StoredLiterals literals) ∧
        shape = ofDefaults defaults := by
  intro tokens read rest ahead
  rw [defaults, run_peek_bind]
  by_cases begun : (current tokens).kind = .keyword .default
  · rw [if_pos begun]
    have given := (reads_keyword .default).bind fun _ => reads_storedLiterals.bind fun literals =>
      reads_pure (some literals)
    rw [given trivial]
    cases read with
    | none =>
      constructor
      · rintro ⟨_, ⟨_, _, _, _, ⟨_, _, _, _, ⟨absent, _⟩, _⟩, _⟩, _⟩
        cases absent
      · rintro ⟨_, ⟨_, rfl⟩, spelled⟩
        exact absurd (spells_nil.mp spelled ▸ begun) ahead
    | some literals => simp [ofDefaults]
  · rw [if_neg begun, run_pure]
    cases read with
    | none => simp [ofDefaults]
    | some literals =>
      constructor
      · rintro ⟨⟩
      · rintro ⟨_, ⟨_, rfl⟩, spelled⟩
        obtain ⟨token, later, rfl, here, _⟩ := spells_cons.mp spelled
        exact absurd here begun

/-- Names that follow another, each with the comma before it. -/
def further (names : List String) : List Terminal :=
  names.flatMap fun name => [.symbol .comma, .name name]

theorem separated_names (name : String) (names : List String) :
    Terminal.separated ((name :: names).map ([.name ·])) = .name name :: further names := by
  induction names generalizing name with
  | nil => rfl
  | cons next names ih =>
    rw [List.map_cons, separated_cons (by simp), ih]
    rfl

theorem namesAfter_eq (tokens : List Token) :
    namesAfter tokens =
      if (current tokens).kind = .symbol .comma then
        match identifier.run tokens.tail with
        | .error e => .error e
        | .ok (name, rest) =>
          match namesAfter rest with
          | .error e => .error e
          | .ok (names, rest) => .ok (name :: names, rest)
      else .ok ([], tokens) := by
  rw [namesAfter]
  split
  · split
    · next taken => simp only [taken]
    · next left taken =>
      cases last : namesAfter left <;> simp only [taken, last]
  · rfl

theorem spells_of_namesAfter {tokens rest : List Token} {names : List String}
    (ran : namesAfter tokens = .ok (names, rest)) : Spells (further names) tokens rest := by
  fun_induction namesAfter tokens generalizing names rest with
  | case1 => cases ran
  | case2 => cases ran
  | case3 tokens comma name left taken _ names' last rec ih =>
    cases ran
    obtain ⟨_, rfl, named⟩ := (reads_identifier trivial).mp taken
    cases tokens with
    | nil => cases comma
    | cons token tokens =>
      refine spells_cons.mpr ⟨token, tokens, rfl, comma, ?_⟩
      exact spells_cons_split.mpr ⟨left, named, ih rec⟩
  | case4 tokens _ =>
    cases ran
    exact spells_nil.mpr rfl

theorem namesAfter_of_spells {tokens rest : List Token} {names : List String}
    (ahead : (current rest).kind ≠ .symbol .comma) (spelled : Spells (further names) tokens rest) :
    namesAfter tokens = .ok (names, rest) := by
  induction names generalizing tokens with
  | nil =>
    obtain rfl := spells_nil.mp spelled
    rw [namesAfter_eq, if_neg ahead]
  | cons name names ih =>
    obtain ⟨comma, tokens, rfl, isComma, spelled⟩ := spells_cons.mp spelled
    obtain ⟨left, named, later⟩ := spells_cons_split.mp spelled
    have taken : identifier.run tokens = .ok (name, left) :=
      (reads_identifier trivial).mpr ⟨_, rfl, named⟩
    have kind : (current (comma :: tokens)).kind = .symbol .comma := isComma
    rw [namesAfter_eq, if_pos kind, List.tail_cons, taken]
    simp only [ih later]

theorem reads_namesAfter :
    ReadsBefore (· ≠ .symbol .comma) ⟨namesAfter, namesAfter_suffix⟩ fun names shape =>
      shape = further names := by
  intro tokens names rest ahead
  constructor
  · intro ran
    exact ⟨_, rfl, spells_of_namesAfter ran⟩
  · rintro ⟨_, rfl, spelled⟩
    exact namesAfter_of_spells ahead spelled

/-- The token that begins a projection: a star, or the first name. -/
def firstColumn : Option String → Terminal
  | none => .symbol .star
  | some name => .name name

def FurtherColumns : Option String → Projection → List Terminal → Prop
  | none, projection, shape => projection = .all ∧ shape = []
  | some name, projection, shape =>
    ∃ names, projection = .columns (name :: names) ∧ shape = further names

/-- The token a projection begins with. -/
theorem reads_firstColumn :
    Reads (accept firstColumnOf) fun first shape => shape = [firstColumn first] := by
  apply reads_accept
  intro first token
  cases first with
  | none =>
    simp only [firstColumnOf, firstColumn, Terminal.Matches]
    split <;> simp_all
  | some name =>
    simp only [firstColumnOf, firstColumn, Terminal.Matches]
    split <;> simp_all

theorem projection_of_further {first : Option String} {projection : Projection}
    {shape : List Terminal} (h : FurtherColumns first projection shape) :
    (∀ names, projection = .columns names → names ≠ []) ∧
      [firstColumn first] ++ shape = projection.terminals := by
  cases first with
  | none =>
    obtain ⟨rfl, rfl⟩ := h
    exact ⟨by simp, rfl⟩
  | some name =>
    obtain ⟨names, rfl, rfl⟩ := h
    exact ⟨by simp, (separated_names name names).symm⟩

/-- Names go on as long as commas do. -/
theorem reads_projection :
    ReadsBefore (· ≠ .symbol .comma) projection fun projection shape =>
      (∀ names, projection = .columns names → names ≠ []) ∧ shape = projection.terminals := by
  refine (reads_firstColumn.bind (H := FurtherColumns) ?_).congr fun projection shape => ?_
  · intro first
    cases first with
    | none => exact (reads_pure _).before
    | some name =>
      refine (reads_namesAfter.bind_before (fun _ => (reads_pure _).before) ?_).congr
        fun projection shape => ?_
      · rintro _ _ _ tokens rest ⟨rfl, rfl⟩ spelled ahead
        exact spells_nil.mp spelled ▸ ahead
      · simp [FurtherColumns, and_comm]
  · constructor
    · rintro ⟨first, _, back, rfl, tail, rfl⟩
      exact projection_of_further tail
    · rintro ⟨some, rfl⟩
      cases projection with
      | all => exact ⟨none, _, [], rfl, ⟨rfl, rfl⟩, rfl⟩
      | columns names =>
        cases names with
        | nil => exact absurd rfl (some [] rfl)
        | cons name names =>
          exact ⟨.some name, _, further names, rfl, ⟨names, rfl, rfl⟩,
            separated_names name names⟩

end ColumnStore.Parser
