import ColumnStore.Proofs.Statement.Reading
import ColumnStore.Statement.Course

/-!
# Every course leads forward

A walk from a position up to an end of the input reads what the parser reads from the tokens there
on, and stops no farther than at that end. On the way the cursor is moved from each token to the
next, and a round that another follows ends behind where it began. All this is shown by induction
on the course. What stands behind the end makes no difference to it.
-/

namespace ColumnStore

variable {α β : Type} {tokens other : List Token} {last : Nat} {trail : Trail}

/-! ## Steps forward -/

/-- Steps from one position to another: each move goes on to the next token, and each round ends
where the cursor is, behind where it began. -/
inductive Forward : Nat → List Step → Nat → Prop
  | stay (position : Nat) : Forward position [] position
  | move {position stop : Nat} {steps : List Step} (later : Forward (position + 1) steps stop) :
      Forward position (.move position (position + 1) :: steps) stop
  | round {start position stop : Nat} {steps : List Step} (behind : start < position)
      (later : Forward position steps stop) :
      Forward position (.round start position :: steps) stop

namespace Forward

variable {start middle stop : Nat} {steps steps' : List Step}

theorem append (before : Forward start steps middle) (after : Forward middle steps' stop) :
    Forward start (steps ++ steps') stop := by
  induction before with
  | stay => exact after
  | move _ ih => exact (ih after).move
  | round behind _ ih => exact (ih after).round behind

theorem le (h : Forward start steps stop) : start ≤ stop := by
  induction h with
  | stay => exact Nat.le_refl _
  | move _ ih => exact Nat.le_of_succ_le ih
  | round _ _ ih => exact ih

theorem moves (h : Forward start steps stop) :
    steps.filter Step.isMove =
      (List.range' start (stop - start)).map fun i => Step.move i (i + 1) := by
  induction h with
  | stay position => simp
  | @move position stop steps later ih =>
    have ahead := later.le
    have count : stop - position = stop - (position + 1) + 1 := by omega
    rw [List.filter_cons_of_pos rfl, ih, count, List.range'_succ, List.map_cons]
  | round _ _ ih => rwa [List.filter_cons_of_neg (by simp [Step.isMove])]

theorem rounds (h : Forward start steps stop) {first final : Nat}
    (member : .round first final ∈ steps) : first < final ∧ final ≤ stop := by
  induction h with
  | stay => cases member
  | move _ ih => exact ih (by simpa using member)
  | round behind later ih =>
    obtain same | member := List.mem_cons.mp member
    · cases same
      exact ⟨behind, later.le⟩
    · exact ih member

end Forward

/-! ## Up to an end of the input -/

/-- An end of the input stands at the index, and both lists have the same tokens up to there. -/
structure EndTogether (tokens other : List Token) (last : Nat) : Prop where
  ends : ∃ token, tokens[last]? = some token ∧ token.kind = .endOfInput
  same : other.take (last + 1) = tokens.take (last + 1)

namespace EndTogether

theorem bound (h : EndTogether tokens other last) : last < tokens.length := by
  obtain ⟨_, ends, _⟩ := h.ends
  exact (List.getElem?_eq_some_iff.mp ends).1

/-- A token up to the end is the next of those of the other list from there on. -/
theorem read (h : EndTogether tokens other last) {position : Nat} (inside : position ≤ last) :
    tokens[position]? = some (Parser.current (other.drop position)) := by
  have read := List.getElem?_eq_getElem (Nat.lt_of_le_of_lt inside h.bound)
  have shared : other[position]? = tokens[position]? := by
    rw [← List.getElem?_take_of_lt (Nat.lt_succ_of_le inside), h.same,
      List.getElem?_take_of_lt (Nat.lt_succ_of_le inside)]
  obtain ⟨within, here⟩ := List.getElem?_eq_some_iff.mp (shared.trans read)
  rw [read, List.drop_eq_getElem_cons within, here]
  rfl

/-- The end is not passed by a token that is no end of the input. -/
theorem lt_of_going (h : EndTogether tokens other last) {position : Nat} (inside : position ≤ last)
    (going : (Parser.current (other.drop position)).kind ≠ .endOfInput) : position < last := by
  refine Nat.lt_of_le_of_ne inside ?_
  rintro rfl
  obtain ⟨token, here, ends⟩ := h.ends
  rw [h.read inside, Option.some.injEq] at here
  exact going (here ▸ ends)

end EndTogether

/-! ## Walks -/

/-- What was walked from a trail on has the result of what was read, and has led forward to a
position up to an end of the input, from which the tokens are left that the reading left. -/
def Arrives (other : List Token) (last : Nat) (trail : Trail)
    (walked : Option (Except SyntaxError α × Trail))
    (read : Except SyntaxError (α × List Token)) : Prop :=
  ∃ steps stop, walked = some (read.map Prod.fst, ⟨stop, trail.steps ++ steps⟩) ∧
    Forward trail.position steps stop ∧ stop ≤ last ∧
    ∀ a rest, read = .ok (a, rest) → other.drop stop = rest

/-- From every position up to an end of the input, the walk arrives with what the parser reads from
the tokens there on. -/
def Goes (w : Walk α) (p : Parser α) : Prop :=
  ∀ ⦃tokens other last⦄, EndTogether tokens other last → ∀ trail : Trail, trail.position ≤ last →
    Arrives other last trail (w tokens trail) (p.run (other.drop trail.position))

namespace Walk

open SyntaxError (Expected)

theorem bind_eq (w : Walk α) (f : α → Walk β) (tokens : List Token) (trail : Trail) :
    (w >>= f) tokens trail =
      match w tokens trail with
      | none => none
      | some (.error e, left) => some (.error e, left)
      | some (.ok a, left) => f a tokens left := by
  simp only [bind, ReaderT.bind, ExceptT.bind, ExceptT.mk, StateT.bind]
  rcases w tokens trail with _ | ⟨_ | _, _⟩ <;> rfl

theorem loop_eq (round : Walk (List α × Bool)) (tokens : List Token) (trail : Trail) :
    loop round tokens trail =
      match round tokens trail with
      | none => none
      | some (.error e, left) => some (.error e, left)
      | some (.ok (found, false), left) => some (.ok found, left)
      | some (.ok (found, true), left) =>
        if tokens.length - left.position < tokens.length - trail.position then
          (loop round tokens
            ⟨left.position, left.steps ++ [.round trail.position left.position]⟩).map
              fun (result, finish) => (result.map (found ++ ·), finish)
        else none :=
  loop.eq_def round tokens trail

variable (h : EndTogether tokens other last) (inside : trail.position ≤ last)
include h inside

theorem current_eq :
    current tokens trail =
      some (.ok (Parser.current (other.drop trail.position)), trail) := by
  rw [current, h.read inside]
  rfl

theorem advance_eq
    (going : (Parser.current (other.drop trail.position)).kind ≠ .endOfInput) :
    advance tokens trail = some (.ok (), ⟨trail.position + 1,
      trail.steps ++ [.move trail.position (trail.position + 1)]⟩) := by
  have bound := h.bound
  have before := h.lt_of_going inside going
  rw [advance, Cursor.lastPosition?, if_pos (by omega), Option.map_some, if_pos (by omega)]

theorem fail_eq (expected : Expected) :
    (fail expected : Walk α) tokens trail =
      some (.error (.atToken expected (Parser.current (other.drop trail.position))), trail) := by
  rw [fail, bind_eq, current_eq h inside]
  rfl

end Walk

open SyntaxError (Expected)

theorem goes_pure (a : α) : Goes (pure a) (pure a) := by
  intro tokens other last h trail inside
  refine ⟨[], trail.position, ?_, .stay _, inside, ?_⟩
  · rw [List.append_nil]
    rfl
  · rintro b rest ⟨⟩
    rfl

theorem goes_failWith (e : SyntaxError) : Goes (throw e : Walk α) (.failWith e) := by
  intro tokens other last h trail inside
  refine ⟨[], trail.position, ?_, .stay _, inside, nofun⟩
  rw [List.append_nil]
  rfl

theorem goes_fail (expected : Expected) : Goes (Walk.fail expected : Walk α) (.fail expected) := by
  intro tokens other last h trail inside
  refine ⟨[], trail.position, ?_, .stay _, inside, nofun⟩
  rw [Walk.fail_eq h inside, List.append_nil]
  rfl

theorem Goes.bind {w : Walk α} {p : Parser α} {f : α → Walk β} {g : α → Parser β}
    (first : Goes w p) (later : ∀ a, Goes (f a) (g a)) : Goes (w >>= f) (p >>= g) := by
  intro tokens other last h trail inside
  obtain ⟨steps, stop, walked, forward, within, left⟩ := first h trail inside
  rw [Walk.bind_eq, walked, Parser.run_bind]
  cases ran : p.run (other.drop trail.position) with
  | error e => exact ⟨steps, stop, rfl, forward, within, nofun⟩
  | ok result =>
    obtain ⟨a, rest⟩ := result
    obtain rfl := left a rest ran
    obtain ⟨steps', stop', walked', forward', within', left'⟩ :=
      later a h ⟨stop, trail.steps ++ steps⟩ within
    refine ⟨steps ++ steps', stop', ?_, forward.append forward', within', left'⟩
    rw [← List.append_assoc]
    exact walked'

/-- The token at the cursor is looked at, and the cursor stays. -/
theorem goes_look {f : Token → α} {p : Parser α}
    (run : ∀ ahead, p.run ahead = .ok (f (Parser.current ahead), ahead)) :
    Goes (do return f (← Walk.current)) p := by
  intro tokens other last h trail inside
  refine ⟨[], trail.position, ?_, .stay _, inside, ?_⟩
  · rw [Walk.bind_eq, Walk.current_eq h inside, run, List.append_nil]
    rfl
  · rintro a rest ran
    cases (run _).symm.trans ran
    rfl

/-- A token that is no end of the input is taken, and what follows it is walked from there. -/
theorem arrives_of_advance {w : Walk α} {p : Parser α} (later : Goes w p)
    (h : EndTogether tokens other last) (inside : trail.position ≤ last)
    (going : (Parser.current (other.drop trail.position)).kind ≠ .endOfInput) :
    Arrives other last trail ((Walk.advance >>= fun _ => w) tokens trail)
      (p.run (other.drop trail.position).tail) := by
  have next : trail.position + 1 ≤ last := h.lt_of_going inside going
  obtain ⟨steps, stop, walked, forward, within, left⟩ := later h
    ⟨trail.position + 1, trail.steps ++ [.move trail.position (trail.position + 1)]⟩ next
  rw [← List.tail_drop] at walked left
  refine ⟨.move trail.position (trail.position + 1) :: steps, stop, ?_, forward.move, within, left⟩
  rw [Walk.bind_eq, Walk.advance_eq h inside going]
  simpa only [List.append_assoc, List.singleton_append] using walked

theorem kind_ne_of_going {choose : Token → Except Expected α} {token : Token} {a : α}
    (going : ∀ text position a, choose ⟨⟨.endOfInput, text⟩, position⟩ ≠ .ok a)
    (chosen : choose token = .ok a) : token.kind ≠ .endOfInput := by
  obtain ⟨⟨kind, text⟩, position⟩ := token
  rintro rfl
  exact going text position a chosen

theorem goes_accept {choose : Token → Except Expected α}
    (going : ∀ text position a, choose ⟨⟨.endOfInput, text⟩, position⟩ ≠ .ok a) :
    Goes (Walk.accept choose) (.accept choose) := by
  intro tokens other last h trail inside
  simp only [Walk.accept, Walk.bind_eq, Walk.current_eq h inside, Parser.accept]
  cases chosen : choose (Parser.current (other.drop trail.position)) with
  | error expected => exact goes_fail expected h trail inside
  | ok a => exact arrives_of_advance (goes_pure a) h inside (kind_ne_of_going going chosen)

theorem goes_branch {choose : Token.Kind → Except Expected (Parser α)}
    {next : ∀ kind p, choose kind = .ok p → Walk α} (going : ∀ p, choose .endOfInput ≠ .ok p)
    (goes : ∀ kind p chosen, Goes (next kind p chosen) p) :
    Goes (do let token ← Walk.current; Walk.follow (choose token.kind) (next token.kind))
      (.branch choose) := by
  intro tokens other last h trail inside
  simp only [Walk.bind_eq, Walk.current_eq h inside, Parser.branch, Parser.run_bind, Parser.accept]
  have inner (p : Parser α)
      (chosen : choose (Parser.current (other.drop trail.position)).kind = .ok p) :
      (Parser.current (other.drop trail.position)).kind ≠ .endOfInput :=
    fun ends => going p (ends ▸ chosen)
  have later := goes (Parser.current (other.drop trail.position)).kind
  -- Only what has been chosen matters, so that it can be told apart.
  generalize next (Parser.current (other.drop trail.position)).kind = walk at later ⊢
  generalize choose (Parser.current (other.drop trail.position)).kind = choice at walk inner later ⊢
  cases choice with
  | error expected => exact goes_fail expected h trail inside
  | ok p => exact arrives_of_advance (later p rfl) h inside (inner p rfl)

/-- After a round that another follows, what has been found is put in front of the rest. -/
theorem Arrives.behind_round {steps : List Step} {stop : Nat} {found : List α}
    {walked : Option (Except SyntaxError (List α) × Trail)}
    {read : Except SyntaxError (List α × List Token)}
    (later : Arrives other last ⟨stop, trail.steps ++ steps ++ [.round trail.position stop]⟩
      walked read)
    (forward : Forward trail.position steps stop) (behind : trail.position < stop) :
    Arrives other last trail
      (walked.map fun (result, finish) => (result.map (found ++ ·), finish))
      (read.map fun (others, rest) => (found ++ others, rest)) := by
  obtain ⟨steps', stop', rfl, forward', within, left⟩ := later
  refine ⟨steps ++ .round trail.position stop :: steps', stop', ?_,
    forward.append (forward'.round behind), within, ?_⟩
  · cases read <;> simp [Except.map]
  · rintro all rest same
    cases read with
    | error e => cases same
    | ok result =>
      cases same
      exact left _ _ rfl

/-- What a loop walks is what its round walks, one round after another. -/
theorem Goes.loop {round : Walk (List α × Bool)} {roundParser : Parser (List α × Bool)}
    {p : Parser (List α)} (repeats : Parser.Repeats roundParser p) (goes : Goes round roundParser) :
    Goes (Walk.loop round) p := by
  intro tokens other last h trail inside
  -- By the distance to the end of the input, which every round but the last lowers.
  induction left : last - trail.position using Nat.strongRecOn generalizing trail with
  | ind _ ih =>
    obtain ⟨steps, stop, walked, forward, within, ahead⟩ := goes h trail inside
    rw [Walk.loop_eq, walked, repeats.unfolded, Parser.run_bind]
    cases ran : roundParser.run (other.drop trail.position) with
    | error e => exact ⟨steps, stop, rfl, forward, within, nofun⟩
    | ok result =>
      obtain ⟨⟨found, more⟩, rest⟩ := result
      obtain rfl := ahead _ rest ran
      cases more with
      | false => exact ⟨steps, stop, rfl, forward, within, by rintro a rest ⟨⟩; rfl⟩
      | true =>
        have behind : trail.position < stop := by
          have shorter := repeats.shorter ran
          rw [List.length_drop, List.length_drop] at shorter
          omega
        have fewer : tokens.length - stop < tokens.length - trail.position := by
          have bound := h.bound
          omega
        have later := @ih (last - stop) (by omega)
          ⟨stop, trail.steps ++ steps ++ [.round trail.position stop]⟩ within rfl
        have read : (do return found ++ (← p) : Parser (List α)).run (other.drop stop) =
            (p.run (other.drop stop)).map fun (others, rest) => (found ++ others, rest) := by
          rw [Parser.run_bind]
          cases p.run (other.drop stop) <;> rfl
        simp only [Except.map, fewer, if_true, read]
        exact later.behind_round forward behind

/-- Every course is walked as its parser reads, forward and up to the end of the input. -/
theorem Parser.Course.goes {p : Parser α} (course : Course p) : Goes course.walk p := by
  induction course with
  | pure a => exact goes_pure a
  | bind _ _ first later => exact first.bind later
  | ite condition _ _ yes no =>
    by_cases holds : condition
    · simpa only [walk, if_pos holds] using yes
    · simpa only [walk, if_neg holds] using no
  | peek => exact goes_look fun _ => rfl
  | position => exact goes_look fun _ => rfl
  | fail expected => exact goes_fail expected
  | failWith e => exact goes_failWith e
  | accept going => exact goes_accept going
  | branch going next ih => exact goes_branch going ih
  | loop repeats _ round => exact round.loop repeats

end ColumnStore
