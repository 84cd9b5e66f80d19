import ColumnStore.Proofs.Statement.Reading

/-!
# Parsers that look one token ahead

A parser predicts a relation between values and shapes when it decides on each token as it comes.
What it has taken can always go on to a shape; where it fails, it fails at the next token; and what
it does depends on no token behind that one. Parsers that predict compose, as long as every value of
the first leaves something for the second to take.
-/

namespace ColumnStore.Parser

open SyntaxError (Expected)

variable {α β : Type} {p : Parser α} {f : α → Parser β} {G G' : α → List Terminal → Prop}
  {H : α → β → List Terminal → Prop} {M M' : List Token → SyntaxError → Prop}
  {N : α → List Token → SyntaxError → Prop} {tokens rest : List Token} {e : SyntaxError}

/-- A shape of the first parser and then one of the second. -/
abbrev Sequence (G : α → List Terminal → Prop) (H : α → β → List Terminal → Prop) (b : β)
    (shape : List Terminal) : Prop :=
  ∃ a front back, G a front ∧ H a b back ∧ shape = front ++ back

/-- The tokens can go on to a shape of the relation. -/
def Viable (G : α → List Terminal → Prop) (front : List Token) : Prop :=
  ∃ a shape later, G a shape ∧ List.Forall₂ Terminal.Matches shape (front ++ later)

/-- The parser takes a shape of the value, and the next token is all it knows of what follows. -/
def Takes (p : Parser α) (G : α → List Terminal → Prop) (a : α) (tokens rest : List Token) : Prop :=
  ∃ front shape, tokens = front ++ rest ∧ G a shape ∧ List.Forall₂ Terminal.Matches shape front ∧
    ∀ other, current other = current rest → p.run (front ++ other) = .ok (a, other)

/-- The parser fails at the token behind a viable front, and would fail so whatever is behind. -/
def FailsAt (p : Parser α) (G : α → List Terminal → Prop) (tokens : List Token)
    (e : SyntaxError) : Prop :=
  ∃ front rest expected, tokens = front ++ rest ∧ Viable G front ∧
    e = .atToken expected (current rest) ∧
    ∀ other, current other = current rest → p.run (front ++ other) = .error e

/-- Every refusal is a failure at the next token, or one that is told apart. -/
structure PredictsOr (p : Parser α) (G : α → List Terminal → Prop)
    (M : List Token → SyntaxError → Prop) : Prop where
  possible : Viable G []
  taken : ∀ ⦃tokens a rest⦄, p.run tokens = .ok (a, rest) → Takes p G a tokens rest
  refused : ∀ ⦃tokens e⦄, p.run tokens = .error e → FailsAt p G tokens e ∨ M tokens e

abbrev Predicts (p : Parser α) (G : α → List Terminal → Prop) : Prop :=
  PredictsOr p G fun _ _ => False

/-! ## Composition -/

theorem Viable.weaken {front : List Token} (h : Viable G front)
    (weaker : ∀ a shape, G a shape → G' a shape) : Viable G' front := by
  obtain ⟨a, shape, later, written, matching⟩ := h
  exact ⟨a, shape, later, weaker a shape written, matching⟩

theorem PredictsOr.imp (h : PredictsOr p G M) (weaker : ∀ a shape, G a shape → G' a shape)
    (apart : ∀ tokens e, M tokens e → M' tokens e) : PredictsOr p G' M' where
  possible := h.possible.weaken weaker
  taken := by
    intro tokens a rest ran
    obtain ⟨front, shape, rfl, written, matching, stable⟩ := h.taken ran
    exact ⟨front, shape, rfl, weaker a shape written, matching, stable⟩
  refused := by
    intro tokens e ran
    refine (h.refused ran).imp ?_ (apart tokens e)
    rintro ⟨front, rest, expected, rfl, viable, here, stable⟩
    exact ⟨front, rest, expected, rfl, viable.weaken weaker, here, stable⟩

theorem PredictsOr.weaken (h : PredictsOr p G M) (weaker : ∀ a shape, G a shape → G' a shape) :
    PredictsOr p G' M :=
  h.imp weaker fun _ _ => id

/-- The next token of a list depends only on its first part and the next token behind that. -/
theorem current_append {other : List Token} (front : List Token)
    (same : current other = current rest) : current (front ++ other) = current (front ++ rest) := by
  cases front with
  | nil => exact same
  | cons token front => rfl

theorem exists_cons_of_current {kind : Token.Kind} (next : (current tokens).kind = kind)
    (inside : kind ≠ .endOfInput) :
    ∃ token later, tokens = token :: later ∧ token.kind = kind := by
  cases tokens with
  | nil => exact absurd next.symm inside
  | cons token later => exact ⟨token, later, rfl, next⟩

theorem predicts_pure (a : α) : Predicts (pure a) fun b shape => b = a ∧ shape = [] where
  possible := ⟨a, [], [], ⟨rfl, rfl⟩, .nil⟩
  taken := by
    intro tokens b rest ran
    cases ran
    exact ⟨[], [], rfl, ⟨rfl, rfl⟩, .nil, fun _ _ => rfl⟩
  refused := by
    intro tokens e ran
    cases ran

theorem predicts_fail (expected : Expected) (possible : Viable G []) :
    Predicts (fail expected) G where
  possible := possible
  taken := by
    intro tokens a rest ran
    cases ran
  refused := by
    intro tokens e ran
    cases ran
    refine .inl ⟨[], tokens, expected, rfl, possible, rfl, fun other same => ?_⟩
    exact congrArg (fun token => Except.error (SyntaxError.atToken expected token)) same

/-- A value may be refused, but it could have been another one. -/
theorem predictsOr_guard {condition : Prop} [Decidable condition] (a : α) (e : SyntaxError) :
    PredictsOr (if condition then pure a else failWith e) (fun b shape => b = a ∧ shape = [])
      fun _ e' => ¬ condition ∧ e' = e := by
  by_cases holds : condition
  · rw [if_pos holds]
    exact (predicts_pure a).imp (fun _ _ => id) fun _ _ => False.elim
  · rw [if_neg holds]
    refine ⟨⟨a, [], [], ⟨rfl, rfl⟩, .nil⟩, ?_, ?_⟩
    · intro tokens b rest ran
      cases ran
    · intro tokens e' ran
      cases ran
      exact .inr ⟨holds, rfl⟩

theorem Viable.bind_left {front : List Token} (h : Viable G front)
    (possible : ∀ a, Viable (H a) []) : Viable (Sequence G H) front := by
  obtain ⟨a, first, later, written, matching⟩ := h
  obtain ⟨b, second, last, next, matching'⟩ := possible a
  refine ⟨b, first ++ second, later ++ last, ⟨a, first, second, written, next, rfl⟩, ?_⟩
  rw [← List.append_assoc]
  exact List.rel_append matching matching'

theorem Viable.bind_right {a : α} {shape : List Terminal} {front front' : List Token}
    (written : G a shape) (matching : List.Forall₂ Terminal.Matches shape front)
    (h : Viable (H a) front') : Viable (Sequence G H) (front ++ front') := by
  obtain ⟨b, second, last, next, matching'⟩ := h
  refine ⟨b, shape ++ second, last, ⟨a, shape, second, written, next, rfl⟩, ?_⟩
  rw [List.append_assoc]
  exact List.rel_append matching matching'

/-- The refusals that are told apart are those of the first parser, and those of the second behind
what the first has taken. -/
theorem PredictsOr.bind_or (hp : PredictsOr p G M) (hf : ∀ a, PredictsOr (f a) (H a) (N a)) :
    PredictsOr (p >>= f) (Sequence G H) fun tokens e =>
      M tokens e ∨ ∃ a front shape middle, tokens = front ++ middle ∧ G a shape ∧
        List.Forall₂ Terminal.Matches shape front ∧ N a middle e where
  possible := hp.possible.bind_left fun a => (hf a).possible
  taken := by
    intro tokens b rest ran
    obtain ⟨a, middle, first, second⟩ := run_bind_eq_ok_iff.mp ran
    obtain ⟨front, shape, rfl, written, matching, stable⟩ := hp.taken first
    obtain ⟨front', shape', rfl, next, matching', stable'⟩ := (hf a).taken second
    refine ⟨front ++ front', shape ++ shape', (List.append_assoc _ _ _).symm,
      ⟨a, shape, shape', written, next, rfl⟩, List.rel_append matching matching', ?_⟩
    intro other same
    -- The first parser sees the same next token, as the second one has taken it or left it there.
    rw [List.append_assoc]
    exact run_bind_eq_ok_iff.mpr
      ⟨a, _, stable _ (current_append front' same), stable' other same⟩
  refused := by
    intro tokens e ran
    rw [run_bind] at ran
    cases first : p.run tokens with
    | error e' =>
      rw [first] at ran
      cases ran
      rcases hp.refused first with ⟨front, rest, expected, rfl, viable, here, stable⟩ | apart
      · -- Whatever the first parser would still take, the second one has a shape to go on with.
        have viable := viable.bind_left fun a => (hf a).possible
        refine .inl ⟨front, rest, expected, rfl, viable, here, ?_⟩
        intro other same
        rw [run_bind, stable other same]
      · exact .inr (.inl apart)
    | ok pair =>
      obtain ⟨a, middle⟩ := pair
      rw [first] at ran
      obtain ⟨front, shape, rfl, written, matching, stable⟩ := hp.taken first
      rcases (hf a).refused ran with ⟨front', rest, expected, rfl, viable, here, stable'⟩ | apart
      · refine .inl ⟨front ++ front', rest, expected, (List.append_assoc _ _ _).symm,
          .bind_right written matching viable, here, ?_⟩
        intro other same
        rw [List.append_assoc, run_bind, stable _ (current_append front' same)]
        exact stable' other same
      · exact .inr (.inr ⟨a, front, shape, middle, rfl, written, matching, apart⟩)

theorem PredictsOr.bind (hp : PredictsOr p G M) (hf : ∀ a, Predicts (f a) (H a)) :
    PredictsOr (p >>= f) (Sequence G H) M := by
  refine (hp.bind_or hf).imp (fun _ _ => id) ?_
  rintro tokens e (apart | ⟨_, _, _, _, _, _, _, ⟨⟩⟩)
  exact apart

/-- Refusals that are told apart keep what has been taken before them. -/
theorem Predicts.bind_or (hp : Predicts p G) (hf : ∀ a, PredictsOr (f a) (H a) (N a)) :
    PredictsOr (p >>= f) (Sequence G H) fun tokens e =>
      ∃ a front shape middle, tokens = front ++ middle ∧ G a shape ∧
        List.Forall₂ Terminal.Matches shape front ∧ N a middle e := by
  refine (PredictsOr.bind_or hp hf).imp (fun _ _ => id) ?_
  rintro tokens e (⟨⟨⟩⟩ | apart)
  exact apart

/-- Looking at a token does not take it, so it still is the next one for what follows. -/
theorem PredictsOr.of_current {γ : Type} {q : Parser β} {G : β → List Terminal → Prop}
    {f : γ → Parser β} {N : γ → List Token → SyntaxError → Prop} (see : Token → γ)
    (run : ∀ tokens, q.run tokens = (f (see (current tokens))).run tokens)
    (hf : ∀ seen, PredictsOr (f seen) G (N seen)) :
    PredictsOr q G fun tokens e => N (see (current tokens)) tokens e where
  possible := (hf (see (current []))).possible
  taken := by
    intro tokens b rest ran
    rw [run] at ran
    obtain ⟨front, shape, rfl, written, matching, stable⟩ := (hf _).taken ran
    refine ⟨front, shape, rfl, written, matching, fun other same => ?_⟩
    rw [run, current_append front same]
    exact stable other same
  refused := by
    intro tokens e ran
    rw [run] at ran
    refine ((hf _).refused ran).imp_left ?_
    rintro ⟨front, rest, expected, rfl, viable, here, stable⟩
    refine ⟨front, rest, expected, rfl, viable, here, fun other same => ?_⟩
    rw [run, current_append front same]
    exact stable other same

theorem predictsOr_position_bind {f : Nat → Parser β} {G : β → List Terminal → Prop}
    {N : Nat → List Token → SyntaxError → Prop} (hf : ∀ n, PredictsOr (f n) G (N n)) :
    PredictsOr (position >>= f) G fun tokens e => N (current tokens).position tokens e :=
  .of_current (·.position) (fun _ => run_position_bind) hf

theorem predicts_peek_bind {f : Token.Kind → Parser β} {G : β → List Terminal → Prop}
    (hf : ∀ kind, Predicts (f kind) G) : Predicts (peek >>= f) G :=
  .of_current (·.kind) (fun _ => run_peek_bind) hf

/-! ## One token -/

theorem Reads.taken (reads : Reads p G) {a : α} (ran : p.run tokens = .ok (a, rest)) :
    Takes p G a tokens rest := by
  obtain ⟨shape, written, front, matching, rfl⟩ := (reads trivial).mp ran
  exact ⟨front, shape, rfl, written, matching, fun other _ =>
    (reads trivial).mpr ⟨shape, written, front, matching, rfl⟩⟩

section Accept

variable {choose : Token → Except Expected α}

theorem accept_refused (ran : (accept choose).run tokens = .error e) :
    (∃ expected, e = .atToken expected (current tokens)) ∧
      ∀ other, current other = current tokens → (accept choose).run other = .error e := by
  cases chosen : choose (current tokens) with
  | ok a => simp [accept, chosen] at ran
  | error expected =>
    simp only [accept, chosen, Except.error.injEq] at ran
    subst ran
    refine ⟨⟨expected, rfl⟩, fun other same => ?_⟩
    simp only [accept, same, chosen]

theorem predicts_accept (reads : Reads (accept choose) G) (possible : Viable G []) :
    Predicts (accept choose) G where
  possible := possible
  taken := fun _ _ _ => reads.taken
  refused := by
    intro tokens e ran
    obtain ⟨⟨expected, here⟩, stable⟩ := accept_refused ran
    exact .inl ⟨[], tokens, expected, rfl, possible, here, stable⟩

end Accept

theorem viable_nil {a : α} {terminal : Terminal} (token : Token) (written : G a [terminal])
    (here : terminal.Matches token) : Viable G [] :=
  ⟨a, [terminal], [token], written, .cons here .nil⟩

theorem predicts_expect {kind : Token.Kind} (terminal : Terminal)
    (stands : ∀ token : Token, terminal.Matches token ↔ token.kind = kind) :
    Predicts (expect kind) fun _ shape => shape = [terminal] :=
  predicts_accept (reads_expect terminal stands)
    (viable_nil (a := ()) ⟨⟨kind, ""⟩, 0⟩ rfl ((stands _).mpr rfl))

theorem predicts_keyword (word : Keyword) :
    Predicts (keyword word) fun _ shape => shape = [.keyword word] :=
  predicts_expect (.keyword word) fun _ => Iff.rfl

theorem predicts_symbol (s : Symbol) :
    Predicts (expect (.symbol s)) fun _ shape => shape = [.symbol s] :=
  predicts_expect (.symbol s) fun _ => Iff.rfl

theorem predicts_identifier : Predicts identifier fun name shape => shape = [.name name] :=
  predicts_accept reads_identifier (viable_nil ⟨⟨.identifier, "a"⟩, 0⟩ rfl ⟨rfl, rfl⟩)

theorem run_branch (choose : Token.Kind → Except Expected (Parser α)) (tokens : List Token) :
    (branch choose).run tokens =
      match choose (current tokens).kind with
      | .error expected => .error (.atToken expected (current tokens))
      | .ok p => p.run tokens.tail := by
  rw [branch, run_bind]
  simp only [accept]
  cases choose (current tokens).kind <;> rfl

theorem run_branch_cons {choose : Token.Kind → Except Expected (Parser α)} {token : Token}
    {later : List Token} (chosen : choose token.kind = .ok p) :
    (branch choose).run (token :: later) = p.run later := by
  simp only [run_branch, current, chosen, List.tail_cons]

/-- The keyword that chooses a parser is in place whenever there is one to choose. -/
theorem predictsOr_branch {choose : Token.Kind → Except Expected (Parser α)}
    (some : ∃ kind p, choose kind = .ok p)
    (each : ∀ kind p, choose kind = .ok p → ∃ word, kind = .keyword word ∧
      PredictsOr p (fun a shape => G a (.keyword word :: shape)) fun tokens e =>
        ∀ token : Token, token.kind = .keyword word → M (token :: tokens) e) :
    PredictsOr (branch choose) G M := by
  have possible : Viable G [] := by
    obtain ⟨kind, p, chosen⟩ := some
    obtain ⟨word, rfl, predicts⟩ := each kind p chosen
    obtain ⟨a, shape, later, written, matching⟩ := predicts.possible
    exact ⟨a, _, ⟨⟨.keyword word, ""⟩, 0⟩ :: later, written, .cons rfl matching⟩
  refine ⟨possible, ?_, ?_⟩
  · intro tokens a rest ran
    rw [run_branch] at ran
    cases chosen : choose (current tokens).kind with
    | error expected => simp [chosen] at ran
    | ok p =>
      simp only [chosen] at ran
      obtain ⟨word, kind, predicts⟩ := each _ p chosen
      obtain ⟨token, later, rfl, kind⟩ := exists_cons_of_current kind (by simp)
      obtain ⟨front, shape, split, written, matching, stable⟩ := predicts.taken ran
      obtain rfl : later = front ++ rest := split
      refine ⟨token :: front, _, rfl, written, .cons kind matching, fun other same => ?_⟩
      exact (run_branch_cons chosen).trans (stable other same)
  · intro tokens e ran
    rw [run_branch] at ran
    cases chosen : choose (current tokens).kind with
    | error expected =>
      simp only [chosen, Except.error.injEq] at ran
      refine .inl ⟨[], tokens, expected, rfl, possible, ran.symm, fun other same => ?_⟩
      rw [run_branch, List.nil_append, same, chosen]
      exact congrArg Except.error ran
    | ok p =>
      simp only [chosen] at ran
      obtain ⟨word, kind, predicts⟩ := each _ p chosen
      obtain ⟨token, later, rfl, kind⟩ := exists_cons_of_current kind (by simp)
      refine (predicts.refused ran).imp ?_ fun apart => apart token kind
      rintro ⟨front, rest, expected, split, ⟨a, _, ahead, written, matching⟩, here, stable⟩
      obtain rfl : later = front ++ rest := split
      have viable : Viable G (token :: front) := ⟨a, _, ahead, written, .cons kind matching⟩
      refine ⟨token :: front, rest, expected, rfl, viable, here, fun other same => ?_⟩
      exact (run_branch_cons chosen).trans (stable other same)

theorem predicts_branch {choose : Token.Kind → Except Expected (Parser α)}
    (some : ∃ kind p, choose kind = .ok p)
    (each : ∀ kind p, choose kind = .ok p → ∃ word, kind = .keyword word ∧
      Predicts p fun a shape => G a (.keyword word :: shape)) :
    Predicts (branch choose) G := by
  refine predictsOr_branch some fun kind p chosen => ?_
  obtain ⟨word, same, predicts⟩ := each kind p chosen
  exact ⟨word, same, predicts.imp (fun _ _ => id) fun _ _ => False.elim⟩

/-! ## Lists -/

section List

variable {item : Parser α} {valid : α → Prop} {shapeOf : α → List Terminal}

/-- The shapes of one or more items and the parenthesis that closes them. -/
def Listed (valid : α → Prop) (shapeOf : α → List Terminal) (as : List α)
    (shape : List Terminal) : Prop :=
  (as ≠ [] ∧ ∀ a ∈ as, valid a) ∧
    shape = Terminal.separated (as.map shapeOf) ++ [.symbol .rightParen]

theorem Viable.last {front : List Token}
    (h : Viable (fun a shape => valid a ∧ shape = shapeOf a) front) :
    Viable (Listed valid shapeOf) front := by
  obtain ⟨a, _, later, ⟨fits, rfl⟩, matching⟩ := h
  refine ⟨[a], _, later ++ [⟨⟨.symbol .rightParen, ""⟩, 0⟩],
    ⟨⟨by simp, by simpa using fits⟩, rfl⟩, ?_⟩
  rw [← List.append_assoc]
  refine List.rel_append ?_ (.cons rfl .nil)
  simpa [Terminal.separated] using matching

theorem Viable.more {a : α} {front front' : List Token} {comma : Token} (fits : valid a)
    (matching : List.Forall₂ Terminal.Matches (shapeOf a) front)
    (kind : comma.kind = .symbol .comma) (h : Viable (Listed valid shapeOf) front') :
    Viable (Listed valid shapeOf) (front ++ comma :: front') := by
  obtain ⟨as, _, later, ⟨⟨some, others⟩, rfl⟩, matching'⟩ := h
  refine ⟨a :: as, _, later, ⟨⟨by simp, by simpa using ⟨fits, others⟩⟩, rfl⟩, ?_⟩
  rw [List.map_cons, separated_cons (by simpa using some)]
  simp only [List.append_assoc, List.cons_append, List.nil_append]
  exact List.rel_append matching (.cons kind matching')

theorem items_refused (predicts : Predicts item fun a shape => valid a ∧ shape = shapeOf a)
    (ran : items item tokens = .error e) :
    FailsAt ⟨items item, items_suffix item⟩ (Listed valid shapeOf) tokens e := by
  fun_induction items item tokens generalizing e with
  | case1 tokens e' failed =>
    cases ran
    obtain ⟨front, rest, expected, rfl, viable, here, stable⟩ | ⟨⟨⟩⟩ := predicts.refused failed
    refine ⟨front, rest, expected, rfl, viable.last, here, fun other same => ?_⟩
    exact (items_eq item _).trans (by rw [stable other same])
  | case2 tokens a left taken e' failed =>
    cases ran
    obtain ⟨front, shape, rfl, written, matching, stable⟩ := predicts.taken taken
    obtain ⟨⟨expected, here⟩, fails⟩ := accept_refused failed
    refine ⟨front, left, expected, rfl,
      .last ⟨a, shape, [], written, (List.append_nil front).symm ▸ matching⟩, here,
      fun other same => (items_eq item _).trans ?_⟩
    rw [stable other same]
    simp only [continues, fails other same]
  | case3 => cases ran
  | case4 tokens a left taken right more _ e' failed ih =>
    cases ran
    obtain ⟨front, _, rfl, ⟨fits, rfl⟩, matching, stable⟩ := predicts.taken taken
    obtain ⟨_, rfl, comma⟩ := (reads_continues trivial).mp more
    obtain ⟨token, rfl, kind⟩ := spells_singleton.mp comma
    obtain ⟨front', rest, expected, rfl, viable, here, stable'⟩ := ih failed
    have viable := Viable.more fits matching kind viable
    refine ⟨front ++ token :: front', rest, expected, by simp, viable, here,
      fun other same => (items_eq item _).trans ?_⟩
    have goes : continues.run (token :: (front' ++ other)) = .ok (true, front' ++ other) :=
      (reads_continues trivial).mpr ⟨_, rfl, spells_singleton.mpr ⟨token, rfl, kind⟩⟩
    have fails : items item (front' ++ other) = .error e' := stable' other same
    rw [List.append_assoc, List.cons_append, stable (token :: (front' ++ other)) rfl]
    simp only [goes, fails]
  | case5 => cases ran

/-- One or more items between parentheses. -/
theorem Predicts.list (reads : Reads item fun a shape => valid a ∧ shape = shapeOf a)
    (predicts : Predicts item fun a shape => valid a ∧ shape = shapeOf a) :
    Predicts (list item) fun as shape =>
      (as ≠ [] ∧ ∀ a ∈ as, valid a) ∧ shape = Terminal.parenthesized (as.map shapeOf) := by
  have within : Predicts ⟨items item, items_suffix item⟩ (Listed valid shapeOf) :=
    ⟨predicts.possible.last, fun _ _ _ => reads.items.taken,
      fun _ _ ran => .inl (items_refused predicts ran)⟩
  refine ((predicts_symbol .leftParen).bind fun _ => within).weaken fun as shape => ?_
  rintro ⟨_, _, _, rfl, ⟨written, rfl⟩, rfl⟩
  exact ⟨written, rfl⟩

end List

end ColumnStore.Parser
