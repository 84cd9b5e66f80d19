import ColumnStore.Proofs.Statement.Grammar
import ColumnStore.Proofs.Statement.Prediction

/-!
# Statements are predicted

Every clause and every statement decides on each token as it comes. The clauses that end where they
can do so too, as the token that ends them is one they do not take. Only an insert looks back: when
its second list is closed, it has to be as long as the first.
-/

namespace ColumnStore.Parser

open Statement hiding inTable

variable {tokens rest : List Token} {e : SyntaxError}

/-! ## Literals and types -/

theorem predicts_varcharLength :
    Predicts varcharLength fun limit shape => shape = [.length limit] :=
  predicts_accept reads_varcharLength
    (viable_nil (a := 1) ⟨⟨.number, "1"⟩, 0⟩ rfl ⟨rfl, by decide +kernel, by decide +kernel⟩)

theorem predicts_storedLiteral :
    Predicts storedLiteral fun l shape => l ≠ .default ∧ shape = [.literal l] :=
  predicts_accept reads_storedLiteral
    (viable_nil (a := .null) ⟨⟨.keyword .null, ""⟩, 0⟩ ⟨by decide, rfl⟩ rfl)

theorem predicts_insertedLiteral :
    Predicts insertedLiteral fun l shape => shape = [.literal l] :=
  predicts_accept reads_insertedLiteral
    (viable_nil (a := .null) ⟨⟨.keyword .null, ""⟩, 0⟩ rfl rfl)

theorem predicts_columnType :
    Predicts columnType fun type shape => shape = type.terminals := by
  refine predicts_branch ⟨.keyword .int, _, rfl⟩ fun kind p chosen => ?_
  split at chosen
  · cases chosen
    refine ⟨.int, rfl, (predicts_pure _).weaken ?_⟩
    rintro _ _ ⟨rfl, rfl⟩
    rfl
  · cases chosen
    refine ⟨.varchar, rfl, ((predicts_symbol _).bind fun _ => predicts_varcharLength.bind fun _ =>
      (predicts_symbol _).bind fun _ => predicts_pure _).weaken ?_⟩
    rintro _ _ ⟨_, _, _, rfl, ⟨limit, _, _, rfl, ⟨_, _, _, rfl, ⟨rfl, rfl⟩, rfl⟩, rfl⟩, rfl⟩
    rfl
  · cases chosen

theorem predicts_columnDefinition :
    Predicts columnDefinition fun d shape => d.default = none ∧ shape = d.terminals := by
  refine (predicts_identifier.bind fun _ => predicts_columnType.bind fun _ =>
    predicts_pure _).weaken ?_
  rintro _ _ ⟨name, _, _, rfl, ⟨type, _, _, rfl, ⟨rfl, rfl⟩, rfl⟩, rfl⟩
  exact ⟨rfl, by simp [Column.Definition.terminals]⟩

theorem predicts_names :
    Predicts (list identifier) fun names shape =>
      names ≠ [] ∧ shape = Terminal.ofNames names := by
  have reads : Reads identifier fun name shape => True ∧ shape = [.name name] :=
    reads_identifier.congr fun _ _ => by simp
  have predicts : Predicts identifier fun name shape => True ∧ shape = [.name name] :=
    predicts_identifier.weaken fun _ _ same => ⟨trivial, same⟩
  exact (predicts.list reads).weaken fun _ _ h => ⟨h.1.1, h.2⟩

theorem predicts_insertedLiterals :
    Predicts (list insertedLiteral) fun values shape =>
      values ≠ [] ∧ shape = Terminal.ofLiterals values := by
  have reads : Reads insertedLiteral fun l shape => True ∧ shape = [.literal l] :=
    reads_insertedLiteral.congr fun _ _ => by simp
  have predicts : Predicts insertedLiteral fun l shape => True ∧ shape = [.literal l] :=
    predicts_insertedLiteral.weaken fun _ _ same => ⟨trivial, same⟩
  exact (predicts.list reads).weaken fun _ _ h => ⟨h.1.1, h.2⟩

theorem predicts_storedLiterals :
    Predicts (list storedLiteral) fun literals shape =>
      StoredLiterals literals ∧ shape = Terminal.ofLiterals literals := by
  refine (predicts_storedLiteral.list reads_storedLiteral).weaken ?_
  rintro literals _ ⟨⟨some, stored⟩, rfl⟩
  exact ⟨⟨some, fun member => stored _ member rfl⟩, rfl⟩

theorem predicts_definitions :
    Predicts (list columnDefinition) fun columns shape =>
      PlainDefinitions columns ∧ shape = ofDefinitions columns :=
  predicts_columnDefinition.list reads_columnDefinition

theorem predicts_inTable :
    Predicts inTable fun table shape => shape = Statement.inTable table := by
  refine ((predicts_keyword _).bind fun _ => (predicts_keyword _).bind fun _ =>
    predicts_identifier).weaken ?_
  rintro table _ ⟨_, _, _, rfl, ⟨_, _, _, rfl, rfl, rfl⟩, rfl⟩
  rfl

theorem predicts_defaults :
    Predicts defaults fun defaults shape =>
      (∀ literals, defaults = some literals → StoredLiterals literals) ∧
        shape = ofDefaults defaults := by
  refine predicts_peek_bind fun kind => ?_
  split
  · refine ((predicts_keyword _).bind fun _ => predicts_storedLiterals.bind fun _ =>
      predicts_pure _).weaken ?_
    rintro _ _ ⟨_, _, _, rfl, ⟨literals, _, _, ⟨stored, rfl⟩, ⟨rfl, rfl⟩, rfl⟩, rfl⟩
    refine ⟨?_, by simp [ofDefaults]⟩
    rintro _ ⟨⟩
    exact stored
  · refine (predicts_pure _).weaken ?_
    rintro _ _ ⟨rfl, rfl⟩
    exact ⟨by simp, rfl⟩

/-- Names end where no comma follows. -/
theorem current_of_namesAfter {names : List String} (ran : namesAfter tokens = .ok (names, rest)) :
    (current rest).kind ≠ .symbol .comma := by
  fun_induction namesAfter tokens generalizing names rest with
  | case1 => cases ran
  | case2 => cases ran
  | case3 tokens comma name left taken _ names' last rec ih =>
    cases ran
    exact ih rec
  | case4 tokens other =>
    cases ran
    exact other

theorem namesAfter_comma {comma : Token} (kind : comma.kind = .symbol .comma) :
    namesAfter (comma :: tokens) =
      match identifier.run tokens with
      | .error e => .error e
      | .ok (name, rest) =>
        match namesAfter rest with
        | .error e => .error e
        | .ok (names, rest) => .ok (name :: names, rest) := by
  have ahead : (current (comma :: tokens)).kind = .symbol .comma := kind
  exact (namesAfter_eq _).trans (if_pos ahead)

theorem namesAfter_refused (ran : namesAfter tokens = .error e) :
    FailsAt ⟨namesAfter, namesAfter_suffix⟩ (fun names shape => shape = further names)
      tokens e := by
  fun_induction namesAfter tokens generalizing e with
  | case1 tokens comma e' failed =>
    cases ran
    obtain ⟨token, tokens, rfl, kind⟩ := exists_cons_of_current comma (by decide)
    obtain ⟨⟨expected, here⟩, fails⟩ := accept_refused failed
    have viable : Viable (fun names shape => shape = further names) [token] :=
      ⟨["a"], _, [⟨⟨.identifier, "a"⟩, 0⟩], rfl, .cons kind (.cons ⟨rfl, rfl⟩ .nil)⟩
    refine ⟨[token], tokens, expected, rfl, viable, here, fun other same => ?_⟩
    have fails : identifier.run other = .error e' := fails other same
    show namesAfter (token :: other) = .error e'
    rw [namesAfter_comma kind, fails]
  | case2 tokens comma name left taken _ e' failed ih =>
    cases ran
    obtain ⟨token, tokens, rfl, kind⟩ := exists_cons_of_current comma (by decide)
    obtain ⟨_, rfl, named⟩ := (reads_identifier trivial).mp taken
    obtain ⟨next, same, isName⟩ := spells_singleton.mp named
    obtain rfl : tokens = next :: left := same
    obtain ⟨front, rest, expected, rfl, ⟨names, _, later, rfl, matching⟩, here, stable⟩ := ih failed
    have viable : Viable (fun names shape => shape = further names) (token :: next :: front) :=
      ⟨name :: names, _, later, rfl, .cons kind (.cons isName matching)⟩
    refine ⟨token :: next :: front, rest, expected, rfl, viable, here, fun other same => ?_⟩
    have taken : identifier.run (next :: (front ++ other)) = .ok (name, front ++ other) :=
      (reads_identifier trivial).mpr ⟨_, rfl, spells_singleton.mpr ⟨next, rfl, isName⟩⟩
    have fails : namesAfter (front ++ other) = .error e' := stable other same
    show namesAfter (token :: next :: (front ++ other)) = .error e'
    rw [namesAfter_comma kind, taken]
    simp only [fails]
  | case3 => cases ran
  | case4 => cases ran

theorem predicts_namesAfter :
    Predicts ⟨namesAfter, namesAfter_suffix⟩ fun names shape => shape = further names where
  possible := ⟨[], [], [], rfl, .nil⟩
  taken := by
    intro tokens names rest ran
    have ends := current_of_namesAfter ran
    obtain ⟨front, matching, rfl⟩ := spells_of_namesAfter ran
    exact ⟨front, _, rfl, rfl, matching, fun other same =>
      namesAfter_of_spells (same ▸ ends) ⟨front, matching, rfl⟩⟩
  refused := fun _ _ ran => .inl (namesAfter_refused ran)

theorem predicts_projection :
    Predicts projection fun projection shape =>
      (∀ names, projection = .columns names → names ≠ []) ∧ shape = projection.terminals := by
  have first : Predicts (accept _) fun first shape => shape = [firstColumn first] :=
    predicts_accept reads_firstColumn (viable_nil (a := none) ⟨⟨.symbol .star, "*"⟩, 0⟩ rfl rfl)
  refine (first.bind (H := FurtherColumns) ?_).weaken ?_
  · intro first
    cases first with
    | none => exact predicts_pure _
    | some name =>
      refine (predicts_namesAfter.bind fun _ => predicts_pure _).weaken ?_
      rintro _ _ ⟨names, _, _, rfl, ⟨rfl, rfl⟩, rfl⟩
      exact ⟨names, rfl, List.append_nil _⟩
  · rintro projection _ ⟨first, _, back, rfl, tail, rfl⟩
    exact projection_of_further tail

/-! ## Statements -/

theorem predicts_create : Predicts create (After .create) := by
  refine predicts_branch ⟨.keyword .database, _, rfl⟩ fun kind p chosen => ?_
  split at chosen
  · cases chosen
    refine ⟨.database, rfl, (predicts_identifier.bind fun _ => predicts_pure _).weaken ?_⟩
    rintro _ _ ⟨_, _, _, rfl, ⟨rfl, rfl⟩, rfl⟩
    exact ⟨trivial, rfl⟩
  · cases chosen
    refine ⟨.table, rfl, (predicts_identifier.bind fun _ => predicts_definitions.bind fun _ =>
      predicts_pure _).weaken ?_⟩
    rintro _ _ ⟨_, _, _, rfl, ⟨columns, _, _, ⟨plain, rfl⟩, ⟨rfl, rfl⟩, rfl⟩, rfl⟩
    exact ⟨plain, by simp [terminals]⟩
  · cases chosen

theorem predicts_drop : Predicts drop (After .drop) := by
  refine predicts_branch ⟨.keyword .database, _, rfl⟩ fun kind p chosen => ?_
  split at chosen
  · cases chosen
    refine ⟨.database, rfl, (predicts_identifier.bind fun _ => predicts_pure _).weaken ?_⟩
    rintro _ _ ⟨_, _, _, rfl, ⟨rfl, rfl⟩, rfl⟩
    exact ⟨trivial, rfl⟩
  · cases chosen
    refine ⟨.table, rfl, (predicts_identifier.bind fun _ => predicts_pure _).weaken ?_⟩
    rintro _ _ ⟨_, _, _, rfl, ⟨rfl, rfl⟩, rfl⟩
    exact ⟨trivial, rfl⟩
  · cases chosen
    refine ⟨.default, rfl, ((predicts_keyword _).bind fun _ => (predicts_keyword _).bind fun _ =>
      predicts_identifier.bind fun _ => predicts_inTable.bind fun _ => predicts_pure _).weaken ?_⟩
    rintro _ _ ⟨_, _, _, rfl, ⟨_, _, _, rfl, ⟨_, _, _, rfl, ⟨_, _, _, rfl, ⟨rfl, rfl⟩, rfl⟩,
      rfl⟩, rfl⟩, rfl⟩
    exact ⟨trivial, rfl⟩
  · cases chosen

theorem predicts_show : Predicts «show» (After .«show») := by
  refine predicts_branch ⟨.keyword .databases, _, rfl⟩ fun kind p chosen => ?_
  split at chosen
  · cases chosen
    refine ⟨.databases, rfl, (predicts_pure _).weaken ?_⟩
    rintro _ _ ⟨rfl, rfl⟩
    exact ⟨trivial, rfl⟩
  · cases chosen
    refine ⟨.tables, rfl, (predicts_pure _).weaken ?_⟩
    rintro _ _ ⟨rfl, rfl⟩
    exact ⟨trivial, rfl⟩
  · cases chosen
    refine ⟨.current, rfl, ((predicts_keyword _).bind fun _ => predicts_pure _).weaken ?_⟩
    rintro _ _ ⟨_, _, _, rfl, ⟨rfl, rfl⟩, rfl⟩
    exact ⟨trivial, rfl⟩
  · cases chosen

theorem predicts_use : Predicts use (After .use) :=
  predicts_accept reads_use
    (viable_nil ⟨⟨.keyword .none, ""⟩, 0⟩ (a := .leaveDatabase) ⟨trivial, rfl⟩ rfl)

theorem predicts_alter : Predicts alter (After .alter) := by
  have first : Viable (fun renamed shape => ∃ t, Renamed renamed t ∧ shape = [t]) [] :=
    viable_nil ⟨⟨.keyword .table, ""⟩, 0⟩ ⟨_, .inl ⟨rfl, rfl⟩, rfl⟩ rfl
  refine ((predicts_accept reads_renamed first).bind fun _ => predicts_identifier.bind fun _ =>
    (predicts_keyword _).bind fun _ => predicts_identifier.bind fun _ => predicts_pure _).weaken ?_
  rintro _ _ ⟨_, _, _, ⟨_, ⟨rfl, rfl⟩ | ⟨rfl, rfl⟩, rfl⟩, ⟨_, _, _, rfl, ⟨_, _, _, rfl,
    ⟨_, _, _, rfl, ⟨rfl, rfl⟩, rfl⟩, rfl⟩, rfl⟩, rfl⟩
  · exact ⟨trivial, rfl⟩
  · exact ⟨trivial, rfl⟩

theorem predicts_add : Predicts add (After .add) := by
  refine ((predicts_keyword _).bind fun _ => predicts_definitions.bind fun _ =>
    (predicts_keyword _).bind fun _ => (predicts_keyword _).bind fun _ =>
      predicts_identifier.bind fun _ => predicts_defaults.bind fun _ => predicts_pure _).weaken ?_
  rintro _ _ ⟨_, _, _, rfl, ⟨columns, _, _, ⟨plain, rfl⟩, ⟨_, _, _, rfl, ⟨_, _, _, rfl,
    ⟨_, _, _, rfl, ⟨given, _, _, ⟨stored, rfl⟩, ⟨rfl, rfl⟩, rfl⟩, rfl⟩, rfl⟩, rfl⟩, rfl⟩, rfl⟩
  exact ⟨⟨plain, stored⟩, by simp [terminals]⟩

theorem predicts_remove : Predicts remove (After .remove) := by
  refine ((predicts_keyword _).bind fun _ => (predicts_keyword _).bind fun _ =>
    predicts_identifier.bind fun _ => predicts_names.bind fun _ => predicts_pure _).weaken ?_
  rintro _ _ ⟨_, _, _, rfl, ⟨_, _, _, rfl, ⟨_, _, _, rfl, ⟨columns, _, _, ⟨some, rfl⟩,
    ⟨rfl, rfl⟩, rfl⟩, rfl⟩, rfl⟩, rfl⟩
  exact ⟨some, by simp [terminals]⟩

theorem predicts_rename : Predicts rename (After .rename) := by
  refine ((predicts_keyword _).bind fun _ => predicts_identifier.bind fun _ =>
    (predicts_keyword _).bind fun _ => predicts_identifier.bind fun _ =>
      predicts_inTable.bind fun _ => predicts_pure _).weaken ?_
  rintro _ _ ⟨_, _, _, rfl, ⟨_, _, _, rfl, ⟨_, _, _, rfl, ⟨_, _, _, rfl, ⟨_, _, _, rfl,
    ⟨rfl, rfl⟩, rfl⟩, rfl⟩, rfl⟩, rfl⟩, rfl⟩
  exact ⟨trivial, rfl⟩

theorem predicts_modify : Predicts modify (After .modify) := by
  refine ((predicts_keyword _).bind fun _ => predicts_definitions.bind fun _ =>
    predicts_inTable.bind fun _ => predicts_pure _).weaken ?_
  rintro _ _ ⟨_, _, _, rfl, ⟨columns, _, _, ⟨plain, rfl⟩, ⟨_, _, _, rfl,
    ⟨rfl, rfl⟩, rfl⟩, rfl⟩, rfl⟩
  exact ⟨plain, by simp [terminals]⟩

theorem predicts_truncate : Predicts truncate (After .truncate) := by
  refine ((predicts_keyword _).bind fun _ => predicts_identifier.bind fun _ =>
    predicts_pure _).weaken ?_
  rintro _ _ ⟨_, _, _, rfl, ⟨_, _, _, rfl, ⟨rfl, rfl⟩, rfl⟩, rfl⟩
  exact ⟨trivial, rfl⟩

theorem predicts_set : Predicts set (After .set) := by
  refine ((predicts_keyword _).bind fun _ => predicts_identifier.bind fun _ =>
    predicts_inTable.bind fun _ => (predicts_keyword _).bind fun _ =>
      predicts_storedLiteral.bind fun _ => predicts_pure _).weaken ?_
  rintro _ _ ⟨_, _, _, rfl, ⟨_, _, _, rfl, ⟨_, _, _, rfl, ⟨_, _, _, rfl,
    ⟨value, _, _, ⟨stored, rfl⟩, ⟨rfl, rfl⟩, rfl⟩, rfl⟩, rfl⟩, rfl⟩, rfl⟩
  exact ⟨stored, rfl⟩

theorem predicts_select : Predicts select (After .select) := by
  refine (predicts_projection.bind fun _ => (predicts_keyword _).bind fun _ =>
    predicts_identifier.bind fun _ => predicts_pure _).weaken ?_
  rintro _ _ ⟨projection, _, _, ⟨some, rfl⟩, ⟨_, _, _, rfl, ⟨_, _, _, rfl,
    ⟨rfl, rfl⟩, rfl⟩, rfl⟩, rfl⟩
  refine ⟨?_, by simp [terminals]⟩
  cases projection with
  | all => trivial
  | columns names => exact some names rfl

end ColumnStore.Parser
