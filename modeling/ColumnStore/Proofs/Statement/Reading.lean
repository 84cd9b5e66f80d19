import ColumnStore.Statement.Grammar
import ColumnStore.Statement.Parser

/-!
# What parsers read

A parser reads a relation between values and shapes: on every list of tokens it answers a value
exactly when the front of the list spells a shape of the value, and leaves the tokens behind it.
Where a parser looks at the token behind what it takes, this is claimed only before tokens of
some kinds. Parsers that read compose to parsers that read, as the shapes do by concatenation.
-/

namespace ColumnStore

variable {α β : Type} {tokens rest : List Token} {shape front back : List Terminal}

/-- No terminal stands for the end of the input. -/
theorem Terminal.Matches.inside {terminal : Terminal} {token : Token}
    (h : terminal.Matches token) : token.kind ≠ .endOfInput := by
  intro ends
  cases terminal with
  | literal l => cases l <;> simp [Matches, ends] at h
  | _ => simp [Matches, ends] at h

theorem Terminal.inside_of_matches (matching : List.Forall₂ Terminal.Matches shape tokens) :
    ∀ token ∈ tokens, token.kind ≠ .endOfInput := by
  intro token member
  obtain ⟨i, bound, rfl⟩ := List.mem_iff_getElem.mp member
  exact (matching.get (matching.length_eq ▸ bound) bound).inside

/-- The tokens begin with one for each terminal, and `rest` is what follows. -/
def Spells (shape : List Terminal) (tokens rest : List Token) : Prop :=
  ∃ front, List.Forall₂ Terminal.Matches shape front ∧ tokens = front ++ rest

@[simp] theorem spells_nil : Spells [] tokens rest ↔ tokens = rest := by
  simp [Spells]

theorem spells_cons {first : Terminal} :
    Spells (first :: shape) tokens rest ↔
      ∃ token later, tokens = token :: later ∧ first.Matches token ∧ Spells shape later rest := by
  constructor
  · rintro ⟨taken, matching, rfl⟩
    obtain ⟨token, later, here, tail, rfl⟩ := List.forall₂_cons_left_iff.mp matching
    exact ⟨token, later ++ rest, rfl, here, later, tail, rfl⟩
  · rintro ⟨token, _, rfl, here, later, tail, rfl⟩
    exact ⟨token :: later, .cons here tail, rfl⟩

theorem spells_singleton {first : Terminal} :
    Spells [first] tokens rest ↔ ∃ token, tokens = token :: rest ∧ first.Matches token := by
  simp only [spells_cons, spells_nil]
  constructor
  · rintro ⟨token, _, rfl, here, rfl⟩
    exact ⟨token, rfl, here⟩
  · rintro ⟨token, rfl, here⟩
    exact ⟨token, rest, rfl, here, rfl⟩

theorem spells_append :
    Spells (front ++ back) tokens rest ↔ ∃ middle, Spells front tokens middle ∧
      Spells back middle rest := by
  induction front generalizing tokens with
  | nil => simp
  | cons first front ih =>
    simp only [List.cons_append, spells_cons, ih]
    constructor
    · rintro ⟨token, later, rfl, here, middle, ahead, behind⟩
      exact ⟨middle, ⟨token, later, rfl, here, ahead⟩, behind⟩
    · rintro ⟨middle, ⟨token, later, rfl, here, ahead⟩, behind⟩
      exact ⟨token, later, rfl, here, middle, ahead, behind⟩

/-- The next token stands for the first terminal. -/
theorem current_matches {first : Terminal} (h : Spells (first :: shape) tokens rest) :
    first.Matches (Parser.current tokens) := by
  obtain ⟨token, later, rfl, here, _⟩ := spells_cons.mp h
  exact here

theorem spells_cons_split {first : Terminal} :
    Spells (first :: shape) tokens rest ↔
      ∃ middle, Spells [first] tokens middle ∧ Spells shape middle rest :=
  @spells_append tokens rest [first] shape

namespace Parser

open SyntaxError (Expected)

/-- The parser answers exactly the values with a shape at the front, wherever the token that
follows is of a kind in `follow`. -/
def ReadsBefore (follow : Token.Kind → Prop) (p : Parser α) (G : α → List Terminal → Prop) :
    Prop :=
  ∀ ⦃tokens a rest⦄, follow (current rest).kind →
    (p.run tokens = .ok (a, rest) ↔ ∃ shape, G a shape ∧ Spells shape tokens rest)

/-- The parser reads its relation before any tokens. -/
abbrev Reads (p : Parser α) (G : α → List Terminal → Prop) : Prop := ReadsBefore (fun _ => True) p G

variable {follow first : Token.Kind → Prop} {p : Parser α} {f : α → Parser β}
  {G G' : α → List Terminal → Prop} {H : α → β → List Terminal → Prop}

theorem Reads.before (h : Reads p G) : ReadsBefore follow p G := fun _ _ _ _ => h trivial

theorem ReadsBefore.congr (h : ReadsBefore follow p G) (same : ∀ a shape, G a shape ↔ G' a shape) :
    ReadsBefore follow p G' := by
  intro tokens a rest ahead
  rw [h ahead]
  simp only [same]

theorem reads_pure (a : α) : Reads (pure a) fun b shape => b = a ∧ shape = [] := by
  intro tokens b rest _
  rw [run_pure, Except.ok.injEq, Prod.mk.injEq]
  constructor
  · rintro ⟨rfl, rfl⟩
    exact ⟨[], ⟨rfl, rfl⟩, spells_nil.mpr rfl⟩
  · rintro ⟨_, ⟨rfl, rfl⟩, same⟩
    exact ⟨rfl, spells_nil.mp same⟩

theorem run_bind_eq_ok_iff {b : β} :
    (p >>= f).run tokens = .ok (b, rest) ↔
      ∃ a middle, p.run tokens = .ok (a, middle) ∧ (f a).run middle = .ok (b, rest) := by
  rw [run_bind]
  constructor
  · intro h
    split at h
    · cases h
    · next a middle ran => exact ⟨a, middle, ran, h⟩
  · rintro ⟨a, middle, ran, h⟩
    rw [ran]
    exact h

/-- The shapes of the second parser have to begin as the first one needs it to go on. -/
theorem ReadsBefore.bind_before (hp : ReadsBefore first p G)
    (hf : ∀ a, ReadsBefore follow (f a) (H a))
    (begins : ∀ a b shape tokens rest, H a b shape → Spells shape tokens rest →
      follow (current rest).kind → first (current tokens).kind) :
    ReadsBefore follow (p >>= f) fun b shape =>
      ∃ a front back, G a front ∧ H a b back ∧ shape = front ++ back := by
  intro tokens b rest ahead
  rw [run_bind_eq_ok_iff]
  constructor
  · rintro ⟨a, middle, ran, later⟩
    obtain ⟨back, written, behind⟩ := (hf a ahead).mp later
    obtain ⟨front, begun, before⟩ := (hp (begins a b back _ _ written behind ahead)).mp ran
    exact ⟨front ++ back, ⟨a, front, back, begun, written, rfl⟩,
      spells_append.mpr ⟨middle, before, behind⟩⟩
  · rintro ⟨_, ⟨a, front, back, begun, written, rfl⟩, spelled⟩
    obtain ⟨middle, before, behind⟩ := spells_append.mp spelled
    exact ⟨a, middle, (hp (begins a b back _ _ written behind ahead)).mpr ⟨front, begun, before⟩,
      (hf a ahead).mpr ⟨back, written, behind⟩⟩

theorem Reads.bind (hp : Reads p G) (hf : ∀ a, ReadsBefore follow (f a) (H a)) :
    ReadsBefore follow (p >>= f) fun b shape =>
      ∃ a front back, G a front ∧ H a b back ∧ shape = front ++ back :=
  ReadsBefore.bind_before hp hf fun _ _ _ _ _ _ _ _ => trivial

theorem run_peek_bind {f : Token.Kind → Parser β} :
    (peek >>= f).run tokens = (f (current tokens).kind).run tokens := rfl

theorem run_position_bind {f : Nat → Parser β} :
    (position >>= f).run tokens = (f (current tokens).position).run tokens := rfl

/-- A parser that only looks reads nothing. -/
theorem reads_position_bind {f : Nat → Parser β} {H : β → List Terminal → Prop}
    (hf : ∀ n, ReadsBefore follow (f n) H) : ReadsBefore follow (position >>= f) H := by
  intro tokens b rest ahead
  exact hf (current tokens).position ahead

theorem reads_guard {condition : Prop} [Decidable condition] (a : α) (e : SyntaxError) :
    Reads (if condition then pure a else failWith e) fun b shape =>
      condition ∧ b = a ∧ shape = [] := by
  by_cases holds : condition
  · rw [if_pos holds]
    exact (reads_pure a).congr fun b shape => by simp [holds]
  · rw [if_neg holds]
    intro tokens b rest _
    simp [failWith, holds]

/-! ## One token -/

/-- A parser that takes one token reads the terminals that it takes. -/
theorem reads_accept_any {choose : Token → Except Expected α} {R : α → Terminal → Prop}
    (takes : ∀ a token, choose token = .ok a ↔ ∃ terminal, R a terminal ∧ terminal.Matches token) :
    Reads (accept choose) fun a shape => ∃ terminal, R a terminal ∧ shape = [terminal] := by
  intro tokens a rest _
  have run : (accept choose).run tokens = .ok (a, rest) ↔
      choose (current tokens) = .ok a ∧ tokens.tail = rest := by
    simp only [accept]
    cases chosen : choose (current tokens) <;> simp
  rw [run]
  constructor
  · rintro ⟨chosen, rfl⟩
    obtain ⟨terminal, allowed, here⟩ := (takes a _).mp chosen
    cases tokens with
    | nil => exact absurd rfl here.inside
    | cons token later =>
      exact ⟨_, ⟨terminal, allowed, rfl⟩, spells_singleton.mpr ⟨token, rfl, here⟩⟩
  · rintro ⟨_, ⟨terminal, allowed, rfl⟩, spelled⟩
    obtain ⟨token, rfl, here⟩ := spells_singleton.mp spelled
    exact ⟨(takes a token).mpr ⟨terminal, allowed, here⟩, rfl⟩

/-- The case where each value is taken from one terminal. -/
theorem reads_accept {choose : Token → Except Expected α} (terminal : α → Terminal)
    (takes : ∀ a token, choose token = .ok a ↔ (terminal a).Matches token) :
    Reads (accept choose) fun a shape => shape = [terminal a] := by
  refine (reads_accept_any (R := fun a t => t = terminal a) ?_).congr ?_
  · intro a token
    rw [takes, exists_eq_left]
  · intro a shape
    rw [exists_eq_left]

theorem reads_expect {kind : Token.Kind} (terminal : Terminal)
    (stands : ∀ token : Token, terminal.Matches token ↔ token.kind = kind) :
    Reads (expect kind) fun _ shape => shape = [terminal] := by
  apply reads_accept fun _ => terminal
  intro _ token
  rw [stands]
  by_cases same : token.kind = kind <;> simp [same]

theorem reads_keyword (word : Keyword) :
    Reads (keyword word) fun _ shape => shape = [.keyword word] :=
  reads_expect (.keyword word) fun _ => Iff.rfl

theorem reads_symbol (s : Symbol) :
    Reads (expect (.symbol s)) fun _ shape => shape = [.symbol s] :=
  reads_expect (.symbol s) fun _ => Iff.rfl

theorem reads_identifier : Reads identifier fun name shape => shape = [.name name] := by
  apply reads_accept .name
  intro name token
  by_cases same : token.kind = .identifier <;> simp [same, Terminal.Matches]

/-- Goes on as the keyword at the front says, where each choice reads what follows it. -/
theorem ReadsBefore.branch {choose : Token.Kind → Except Expected (Parser α)}
    (each : ∀ kind p, choose kind = .ok p → ∃ word, kind = .keyword word ∧
      ReadsBefore follow p fun a shape => G a (.keyword word :: shape))
    (heads : ∀ a shape, G a shape → ∃ word later p,
      shape = .keyword word :: later ∧ choose (.keyword word) = .ok p) :
    ReadsBefore follow (branch choose) G := by
  intro tokens a rest ahead
  have run (next : Parser α) (middle : List Token) :
      (accept fun token => choose token.kind).run tokens = .ok (next, middle) ↔
        choose (current tokens).kind = .ok next ∧ tokens.tail = middle := by
    simp only [accept]
    cases chosen : choose (current tokens).kind <;> simp
  rw [Parser.branch, run_bind_eq_ok_iff]
  simp only [run]
  constructor
  · rintro ⟨next, _, ⟨chosen, rfl⟩, later⟩
    obtain ⟨word, kind, reads⟩ := each _ next chosen
    cases tokens with
    | nil => cases kind
    | cons token tokens =>
      obtain ⟨shape, written, spelled⟩ := (reads ahead).mp later
      exact ⟨_, written, spells_cons.mpr ⟨token, tokens, rfl, kind, spelled⟩⟩
  · rintro ⟨shape, written, spelled⟩
    obtain ⟨word, later, next, rfl, chosen⟩ := heads a shape written
    obtain ⟨token, tokens, rfl, kind, spelled⟩ := spells_cons.mp spelled
    obtain ⟨_, same, reads⟩ := each _ next chosen
    cases same
    exact ⟨next, tokens, ⟨(congrArg choose kind).trans chosen, rfl⟩,
      (reads ahead).mpr ⟨later, written, spelled⟩⟩

/-! ## Lists -/

theorem separated_cons {item : List Terminal} {items : List (List Terminal)} (more : items ≠ []) :
    Terminal.separated (item :: items) =
      item ++ [.symbol .comma] ++ Terminal.separated items := by
  cases items with
  | nil => exact absurd rfl more
  | cons next items => simp [Terminal.separated, List.intercalate]

theorem reads_continues :
    Reads continues fun more shape =>
      shape = [.symbol (if more then .comma else .rightParen)] := by
  apply reads_accept fun more : Bool => .symbol (if more then .comma else .rightParen)
  intro more token
  cases more <;> simp only [separatorOf, Terminal.Matches] <;> split <;> simp_all

section List

variable {item : Parser α} {valid : α → Prop} {shapeOf : α → List Terminal}

theorem spells_of_items (h : Reads item fun a shape => valid a ∧ shape = shapeOf a) {as : List α}
    (ran : items item tokens = .ok (as, rest)) :
    (as ≠ [] ∧ ∀ a ∈ as, valid a) ∧
      Spells (Terminal.separated (as.map shapeOf) ++ [.symbol .rightParen]) tokens rest := by
  fun_induction items item tokens generalizing as rest with
  | case1 => cases ran
  | case2 => cases ran
  | case3 tokens a left taken right more =>
    cases ran
    obtain ⟨_, ⟨fits, rfl⟩, first⟩ := (h trivial).mp taken
    obtain ⟨_, rfl, last⟩ := (reads_continues trivial).mp more
    refine ⟨by simpa using fits, spells_append.mpr ⟨left, ?_, last⟩⟩
    simpa [Terminal.separated] using first
  | case4 => cases ran
  | case5 tokens a left taken right more _ as' last rec ih =>
    cases ran
    obtain ⟨_, ⟨fits, rfl⟩, first⟩ := (h trivial).mp taken
    obtain ⟨_, rfl, comma⟩ := (reads_continues trivial).mp more
    obtain ⟨⟨some, others⟩, tail⟩ := ih rec
    refine ⟨⟨by simp, by simpa using ⟨fits, others⟩⟩, ?_⟩
    rw [List.map_cons, separated_cons (by simpa using some), List.append_assoc]
    exact spells_append.mpr ⟨right, spells_append.mpr ⟨left, first, comma⟩, tail⟩

theorem items_eq (item : Parser α) (tokens : List Token) :
    items item tokens =
      match item.run tokens with
      | .error e => .error e
      | .ok (a, rest) =>
        match continues.run rest with
        | .error e => .error e
        | .ok (false, rest) => .ok ([a], rest)
        | .ok (true, rest) =>
          match items item rest with
          | .error e => .error e
          | .ok (as, rest) => .ok (a :: as, rest) := by
  rw [items]
  split
  · next taken => simp only [taken]
  · next taken =>
    split
    · next more => simp only [taken, more]
    · next more => simp only [taken, more]
    · next later more =>
      cases last : items item later <;> simp only [taken, more, last]

theorem items_of_spells (h : Reads item fun a shape => valid a ∧ shape = shapeOf a) {as : List α}
    (some : as ≠ []) (fits : ∀ a ∈ as, valid a)
    (spelled : Spells (Terminal.separated (as.map shapeOf) ++ [.symbol .rightParen]) tokens rest) :
    items item tokens = .ok (as, rest) := by
  induction as generalizing tokens with
  | nil => exact absurd rfl some
  | cons a as ih =>
    have here : valid a := fits a (by simp)
    by_cases alone : as = []
    · subst alone
      obtain ⟨middle, first, close⟩ := spells_append.mp spelled
      have taken : item.run tokens = .ok (a, middle) :=
        (h trivial).mpr ⟨_, ⟨here, rfl⟩, by simpa [Terminal.separated] using first⟩
      have ended : continues.run middle = .ok (false, rest) :=
        (reads_continues trivial).mpr ⟨_, rfl, close⟩
      rw [items_eq, taken]
      simp only [ended]
    · rw [List.map_cons, separated_cons (by simpa using alone), List.append_assoc] at spelled
      obtain ⟨right, head, tail⟩ := spells_append.mp spelled
      obtain ⟨left, first, comma⟩ := spells_append.mp head
      have taken : item.run tokens = .ok (a, left) :=
        (h trivial).mpr ⟨_, ⟨here, rfl⟩, first⟩
      have more : continues.run left = .ok (true, right) :=
        (reads_continues trivial).mpr ⟨_, rfl, comma⟩
      have later := ih alone (fun other member => fits other (by simp [member])) tail
      rw [items_eq, taken]
      simp only [more, later]

theorem Reads.items (h : Reads item fun a shape => valid a ∧ shape = shapeOf a) :
    Reads ⟨items item, items_suffix item⟩ fun as shape =>
      (as ≠ [] ∧ ∀ a ∈ as, valid a) ∧
        shape = Terminal.separated (as.map shapeOf) ++ [.symbol .rightParen] := by
  intro tokens as rest _
  constructor
  · intro ran
    obtain ⟨written, spelled⟩ := spells_of_items h ran
    exact ⟨_, ⟨written, rfl⟩, spelled⟩
  · rintro ⟨_, ⟨⟨some, fits⟩, rfl⟩, spelled⟩
    exact items_of_spells h some fits spelled

/-- One or more items between parentheses. -/
theorem Reads.list (h : Reads item fun a shape => valid a ∧ shape = shapeOf a) :
    Reads (list item) fun as shape =>
      (as ≠ [] ∧ ∀ a ∈ as, valid a) ∧ shape = Terminal.parenthesized (as.map shapeOf) := by
  refine ((reads_symbol .leftParen).bind fun _ => h.items).congr fun as shape => ?_
  simp [Terminal.parenthesized]

end List

end Parser

end ColumnStore
