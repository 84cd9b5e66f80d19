import ColumnStore.Indexed.Cursor
import ColumnStore.Proofs.Statement.Reading
import ColumnStore.Statement.Course

/-!
# The cursor stays inside the tokens

A cursor follows a parser when, from every position inside a list that ends with the end of the
input, it reads what the parser reads from the tokens there on, and stops inside. Following is kept
by sequencing, and the primitives follow because no parser takes the end of the input.
-/

namespace ColumnStore.Cursor

open SyntaxError (Expected)

variable {α β : Type} {tokens : List Token} {position : Nat}

/-- The last token is the end of the input. -/
def Closed (tokens : List Token) : Prop :=
  ∃ last, tokens.getLast? = some last ∧ last.kind = .endOfInput

/-- From every position inside, the same result as on the tokens from there on. -/
def Follows (q : Cursor α) (p : Parser α) : Prop :=
  ∀ ⦃tokens position⦄, Closed tokens → position < tokens.length →
    match p.run (tokens.drop position) with
    | .error e => q tokens position = some (.error e)
    | .ok (a, rest) => ∃ stop, q tokens position = some (.ok (a, stop)) ∧
        stop < tokens.length ∧ tokens.drop stop = rest

theorem bind_eq (q : Cursor α) (f : α → Cursor β) (tokens : List Token) (position : Nat) :
    (q >>= f) tokens position =
      match q tokens position with
      | none => none
      | some (.error e) => some (.error e)
      | some (.ok (a, stop)) => f a tokens stop := by
  simp only [bind, ReaderT.bind, StateT.bind, ExceptT.bind, ExceptT.mk]
  rcases q tokens position with _ | _ | ⟨a, stop⟩ <;> rfl

theorem follows_pure (a : α) : Follows (pure a) (pure a) := by
  intro tokens position closed inside
  exact ⟨position, rfl, inside, rfl⟩

section Results

variable {q : Cursor α} {p : Parser α} {a : α} {e : SyntaxError} {ahead rest : List Token}

theorem Follows.ok (h : Follows q p) (closed : Closed tokens) (inside : position < tokens.length)
    (front : tokens.drop position = ahead) (ran : p.run ahead = .ok (a, rest)) :
    ∃ stop, q tokens position = some (.ok (a, stop)) ∧ stop < tokens.length ∧
      tokens.drop stop = rest := by
  have result := h closed inside
  rwa [front, ran] at result

theorem Follows.error (h : Follows q p) (closed : Closed tokens)
    (inside : position < tokens.length) (front : tokens.drop position = ahead)
    (ran : p.run ahead = .error e) : q tokens position = some (.error e) := by
  have result := h closed inside
  rwa [front, ran] at result

end Results

theorem Follows.bind {q : Cursor α} {p : Parser α} {f : α → Cursor β} {g : α → Parser β}
    (h : Follows q p) (later : ∀ a, Follows (f a) (g a)) : Follows (q >>= f) (p >>= g) := by
  intro tokens position closed inside
  rw [Parser.run_bind, bind_eq]
  cases ran : p.run (tokens.drop position) with
  | error e => simp only [h.error closed inside rfl ran]
  | ok result =>
    obtain ⟨stop, read, within, front⟩ := h.ok closed inside rfl ran
    simp only [read, ← front]
    exact later result.1 closed within

/-- The token at a position inside is the next of those from there on. -/
theorem current_eq (inside : position < tokens.length) :
    current tokens position = some (.ok (Parser.current (tokens.drop position), position)) := by
  rw [current, List.getElem?_eq_getElem inside, List.drop_eq_getElem_cons inside]
  rfl

/-- A token that is not the end of the input has another behind it. -/
theorem advance_eq (closed : Closed tokens) (inside : position < tokens.length)
    (going : (Parser.current (tokens.drop position)).kind ≠ .endOfInput) :
    advance tokens position = some (.ok ((), position + 1)) ∧ position + 1 < tokens.length := by
  have more : position + 1 < tokens.length := by
    by_contra last
    obtain ⟨token, final, ending⟩ := closed
    have here : position = tokens.length - 1 := by omega
    rw [List.getLast?_eq_getElem?, ← here] at final
    rw [List.drop_eq_getElem_cons inside] at going
    rw [List.getElem?_eq_getElem inside] at final
    cases final
    exact going ending
  refine ⟨?_, more⟩
  rw [advance, lastPosition?, if_pos (by omega), Option.map_some, if_pos (by omega)]

theorem follows_fail (expected : Expected) :
    Follows (fail expected : Cursor α) (.fail expected) := by
  intro tokens position closed inside
  simp only [Parser.fail, fail, bind_eq, current_eq inside]
  rfl

theorem fail_bind (expected : Expected) (f : α → Cursor β) :
    (fail expected >>= f) = fail expected := by
  funext tokens position
  simp only [fail, bind_eq]
  rcases current tokens position with _ | _ | _ <;> rfl

/-- What follows the current token may rely on it, as the position stays where it is. -/
theorem bind_current_congr {f g : Token → Cursor α}
    (same : ∀ tokens position token, current tokens position = some (.ok (token, position)) →
      f token tokens position = g token tokens position) :
    (current >>= f) = (current >>= g) := by
  funext tokens position
  rw [bind_eq, bind_eq]
  cases here : tokens[position]? with
  | none => simp [current, here]
  | some token =>
    have read : current tokens position = some (.ok (token, position)) := by simp [current, here]
    simp only [read, same tokens position token read]

/-- The current token is looked at for its kind. -/
theorem Follows.of_kind {f : Token → Cursor α} {g : Token.Kind → Parser α}
    (h : ∀ token, Follows (f token) (g token.kind)) :
    Follows (current >>= f) (Parser.peek >>= g) := by
  intro tokens position closed inside
  rw [bind_eq, current_eq inside]
  exact h _ closed inside

/-- The current token is looked at for its position. -/
theorem Follows.of_position {f : Token → Cursor α} {g : Nat → Parser α}
    (h : ∀ token, Follows (f token) (g token.position)) :
    Follows (current >>= f) (Parser.position >>= g) := by
  intro tokens position closed inside
  rw [bind_eq, current_eq inside]
  exact h _ closed inside

/-! ## One token -/

/-- A choice that takes no end of the input. -/
def Going (choose : Token → Except Expected α) : Prop :=
  ∀ token a, choose token = .ok a → token.kind ≠ .endOfInput

theorem going_of_refused {choose : Token → Except Expected α}
    (refused : ∀ text position a, choose ⟨⟨.endOfInput, text⟩, position⟩ ≠ .ok a) :
    Going choose := by
  rintro ⟨⟨kind, text⟩, position⟩ a chosen ending
  obtain rfl : kind = .endOfInput := ending
  exact refused text position a chosen

theorem follows_accept {choose : Token → Except Expected α} (going : Going choose) :
    Follows (accept choose) (.accept choose) := by
  intro tokens position closed inside
  simp only [Parser.accept, accept, bind_eq, current_eq inside]
  cases chosen : choose (Parser.current (tokens.drop position)) with
  | error e => exact follows_fail e closed inside
  | ok a =>
    obtain ⟨moved, within⟩ := advance_eq closed inside (going _ a chosen)
    refine ⟨position + 1, ?_, within, by rw [List.tail_drop]⟩
    simp only [bind_eq, moved]
    rfl

theorem expect_eq (kind : Token.Kind) :
    expect kind = accept fun token => if token.kind = kind then .ok () else .error (.kind kind) := by
  simp only [expect, accept]
  congr 1
  funext token
  split <;> simp

theorem follows_expect {kind : Token.Kind} (going : kind ≠ .endOfInput) :
    Follows (expect kind) (.expect kind) := by
  rw [expect_eq]
  apply follows_accept
  intro token a chosen ending
  simp [ending, going.symm] at chosen

theorem follows_keyword (word : Keyword) : Follows (keyword word) (.keyword word) :=
  follows_expect nofun

theorem follows_symbol (s : Symbol) : Follows (expect (.symbol s)) (.expect (.symbol s)) :=
  follows_expect nofun

theorem identifier_eq :
    identifier = accept fun token =>
      if token.kind = .identifier then .ok token.text else .error (.kind .identifier) := by
  apply bind_current_congr
  intro tokens position token here
  by_cases name : token.kind = .identifier
  · simp only [name, ne_eq, not_true_eq_false, if_false, if_true, bind_eq, here]
  · simp only [name, ne_eq, not_false_eq_true, if_true, if_false]

theorem follows_identifier : Follows identifier .identifier := by
  rw [identifier_eq]
  exact follows_accept (going_of_refused nofun)

/-- Two choices that go on alike for a kind of token. -/
def Paired (kind : Token.Kind) :
    Except Expected (Cursor α) → Except Expected (Parser α) → Prop
  | .error e, .error e' => e = e'
  | .ok q, .ok p => kind ≠ .endOfInput ∧ Follows q p
  | _, _ => False

theorem follows_branch {choose : Token.Kind → Except Expected (Cursor α)}
    {chooseParser : Token.Kind → Except Expected (Parser α)}
    (paired : ∀ kind, Paired kind (choose kind) (chooseParser kind)) :
    Follows (branch choose) (.branch chooseParser) := by
  intro tokens position closed inside
  have alike := paired (Parser.current (tokens.drop position)).kind
  simp only [Parser.branch, Parser.run_bind, Parser.accept, branch, bind_eq, current_eq inside]
  cases chosen : choose (Parser.current (tokens.drop position)).kind with
  | error e =>
    cases chosenParser : chooseParser (Parser.current (tokens.drop position)).kind with
    | error e' =>
      rw [chosen, chosenParser] at alike
      obtain rfl : e = e' := alike
      exact follows_fail e closed inside
    | ok p =>
      rw [chosen, chosenParser] at alike
      exact alike.elim
  | ok q =>
    cases chosenParser : chooseParser (Parser.current (tokens.drop position)).kind with
    | error e' =>
      rw [chosen, chosenParser] at alike
      exact alike.elim
    | ok p =>
      rw [chosen, chosenParser] at alike
      obtain ⟨moved, within⟩ := advance_eq closed inside alike.1
      simp only [bind_eq, moved, List.tail_drop]
      exact alike.2 closed within

theorem advance_of_kind (kind : Token.Kind) (f : Unit → Cursor α) (g : Cursor α) :
    (do if (← current).kind = kind then advance >>= f else g : Cursor α) =
      (do if (← current).kind = kind then expect kind >>= f else g) := by
  apply bind_current_congr
  intro tokens position token here
  by_cases wanted : token.kind = kind
  · simp only [wanted, if_true, expect, bind_eq, here]
  · simp only [wanted, if_false]

/-- A choice between one kind of token and a name. -/
theorem kind_or_identifier (kind : Token.Kind) (a : α) (f : String → α) :
    (do
      if (← current).kind = kind then
        advance
        return a
      else return f (← identifier) : Cursor α) =
      accept fun token =>
        if token.kind = kind then .ok a
        else if token.kind = .identifier then .ok (f token.text)
        else .error (.kind .identifier) := by
  rw [identifier_eq]
  apply bind_current_congr
  intro tokens position token here
  by_cases wanted : token.kind = kind
  · simp only [wanted, if_true]
  · by_cases name : token.kind = .identifier
    · have other : ¬ Token.Kind.identifier = kind := name ▸ wanted
      simp only [name, other, if_false, if_true, accept, bind_eq, here]
      rcases advance tokens position with _ | _ | _ <;> rfl
    · simp only [wanted, name, if_false, accept, bind_eq, here, fail]
      rfl

theorem follows_kind_or_identifier {kind : Token.Kind} {a : α} {f : String → α}
    {choose : Token → Except Expected α} (going : kind ≠ .endOfInput)
    (same : ∀ token, choose token =
      if token.kind = kind then .ok a
      else if token.kind = .identifier then .ok (f token.text)
      else .error (.kind .identifier)) :
    Follows
      (do
        if (← current).kind = kind then
          advance
          return a
        else return f (← identifier))
      (.accept choose) := by
  rw [kind_or_identifier, ← funext same]
  apply follows_accept
  intro token a chosen ending
  rw [same, ending, if_neg going.symm] at chosen
  simp at chosen

/-- What is chosen for a kind of token takes that token itself. -/
def Dispatched (kind : Token.Kind) (q : Cursor α) : Except Expected (Parser α) → Prop
  | .error e => q = fail e
  | .ok p => kind ≠ .endOfInput ∧ Follows q (Parser.expect kind >>= fun _ => p)

theorem follows_dispatch {next : Token → Cursor α}
    {choose : Token.Kind → Except Expected (Parser α)}
    (dispatched : ∀ token, Dispatched token.kind (next token) (choose token.kind)) :
    Follows (current >>= next) (.branch choose) := by
  intro tokens position closed inside
  have chosen := dispatched (Parser.current (tokens.drop position))
  rw [bind_eq, current_eq inside]
  simp only [Parser.branch, Parser.run_bind, Parser.accept]
  cases choice : choose (Parser.current (tokens.drop position)).kind with
  | error e =>
    rw [choice] at chosen
    have failed : next (Parser.current (tokens.drop position)) = fail e := chosen
    simp only [failed]
    exact follows_fail e closed inside
  | ok p =>
    rw [choice] at chosen
    have result := chosen.2 closed inside
    simpa only [Parser.run_bind, Parser.expect, Parser.accept, if_true] using result

/-! ## Loops -/

theorem loop_eq (round : Cursor (List α × Bool)) (tokens : List Token) (position : Nat) :
    loop round tokens position =
      match round tokens position with
      | none => none
      | some (.error e) => some (.error e)
      | some (.ok ((found, more), stop)) =>
        if more then
          if tokens.length - stop < tokens.length - position then
            (do return found ++ (← loop round) : Cursor (List α)) tokens stop
          else none
        else some (.ok (found, stop)) := by
  rw [loop]
  simp only [bind, ExceptT.bind, ExceptT.mk]
  cases round tokens position with
  | none => rfl
  | some result =>
    cases result with
    | error e => rfl
    | ok result =>
      obtain ⟨⟨found, more⟩, stop⟩ := result
      cases more with
      | false => rfl
      | true =>
        by_cases fewer : tokens.length - stop < tokens.length - position
        · simp only [Option.bind, ExceptT.bindCont, fewer, if_true, dif_pos]
          rfl
        · simp only [Option.bind, ExceptT.bindCont, fewer, if_true, if_false, dif_neg,
            not_false_eq_true]
          rfl

/-- A loop follows what one round after another reads, if no round but the last is empty. -/
theorem follows_loop {round : Cursor (List α × Bool)}
    {roundParser : Parser (List α × Bool)} {p : Parser (List α)} (h : Follows round roundParser)
    (shorter : ∀ {ahead found rest}, roundParser.run ahead = .ok ((found, true), rest) →
      rest.length < ahead.length)
    (unfolded : ∀ ahead, p.run ahead = (do
      let (found, more) ← roundParser
      if more then return found ++ (← p) else return found : Parser (List α)).run ahead) :
    Follows (loop round) p := by
  intro tokens position closed inside
  -- By the number of tokens left, which every round but the last lowers.
  induction left : tokens.length - position using Nat.strongRecOn generalizing position with
  | ind _ ih =>
    rw [unfolded, Parser.run_bind, loop_eq]
    cases ran : roundParser.run (tokens.drop position) with
    | error e => simp only [h.error closed inside rfl ran]
    | ok result =>
      obtain ⟨⟨found, more⟩, rest⟩ := result
      obtain ⟨stop, read, within, front⟩ := h.ok closed inside rfl ran
      cases more with
      | false =>
        simp only [read]
        exact ⟨stop, rfl, within, front⟩
      | true =>
        have moved : tokens.length - stop < tokens.length - position := by
          have fewer := shorter ran
          rwa [← front, List.length_drop, List.length_drop] at fewer
        have later := ih _ (left ▸ moved) within rfl
        simp only [read, moved, if_true, bind_eq, Parser.run_bind, ← front]
        cases ran' : p.run (tokens.drop stop) with
        | error e =>
          rw [ran'] at later
          simp only [later]
        | ok result =>
          rw [ran'] at later
          obtain ⟨finish, others, final, last⟩ := later
          exact ⟨finish, by simp only [others]; rfl, final, last⟩

/-- What stands between the items of a list, taken by position. -/
def continues : Cursor Bool := accept Parser.separatorOf

theorem follows_continues : Follows continues .continues :=
  follows_accept (going_of_refused nofun)

theorem items_eq (item : Cursor α) :
    items item = loop (do
      let a ← item
      let more ← continues
      return ([a], more)) := by
  unfold items
  congr 1
  simp only [continues, Parser.separatorOf, accept, bind_assoc]
  congr 1
  funext a
  congr 1
  funext token
  cases token.kind with
  | symbol s => cases s <;> simp [fail_bind, -bind_pure_comp]
  | _ => simp [fail_bind, -bind_pure_comp]

/-- An item of a list, and whether a comma follows it. -/
def itemRound (item : Parser α) : Parser (List α × Bool) := do
  let a ← item
  let more ← Parser.continues
  return ([a], more)

theorem repeats_items (item : Parser α) :
    Parser.Repeats (itemRound item) ⟨Parser.items item, Parser.items_suffix item⟩ where
  shorter {ahead found rest} ran := by
    obtain ⟨a, left, taken, later⟩ := Parser.run_bind_eq_ok_iff.mp ran
    obtain ⟨more, right, going, done⟩ := Parser.run_bind_eq_ok_iff.mp later
    cases done
    exact Nat.lt_of_lt_of_le (Parser.continues_length going) (item.suffix taken).length_le
  unfolded ahead := by
    change Parser.items item ahead = _
    rw [Parser.items_eq]
    simp only [itemRound, Parser.run_bind]
    cases item.run ahead with
    | error e => rfl
    | ok result =>
      cases continuing : Parser.continues.run result.2 with
      | error e => simp [continuing]
      | ok result' =>
        obtain ⟨more, rest⟩ := result'
        cases more with
        | false => simp [continuing, Parser.run_pure]
        | true =>
          simp only [continuing, Parser.run_bind, Parser.run_pure, if_true]
          cases Parser.items item rest <;> rfl

theorem follows_items {item : Cursor α} {itemParser : Parser α} (h : Follows item itemParser) :
    Follows (items item) ⟨Parser.items itemParser, Parser.items_suffix itemParser⟩ := by
  have repeats := repeats_items itemParser
  rw [items_eq]
  exact follows_loop (h.bind fun a => follows_continues.bind fun more => follows_pure _)
    repeats.shorter repeats.unfolded

theorem follows_list {item : Cursor α} {itemParser : Parser α} (h : Follows item itemParser) :
    Follows (list item) (.list itemParser) :=
  (follows_symbol .leftParen).bind fun _ => follows_items h

end ColumnStore.Cursor
