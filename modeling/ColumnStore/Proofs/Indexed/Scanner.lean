import ColumnStore.Indexed.Scanner
import ColumnStore.Proofs.Token.Layout

/-!
# The scanner stays inside the input

Every part of the scanner that begins inside the input ends inside it and reads what the list of
the characters from there on gives, so a scan has a result on every text.
-/

namespace ColumnStore.Scanner

open Text Token

variable {input cs : List Char} {c : Char} {position start : Nat}

/-- What stands at a position and behind it. -/
theorem front_of_drop (ahead : input.drop position = c :: cs) :
    input[position]? = some c ∧ input.drop (position + 1) = cs ∧
      input.length = position + 1 + cs.length := by
  have here : input[position]? = some c := by rw [← List.head?_drop, ahead, List.head?_cons]
  have inside := (List.getElem?_eq_some_iff.mp here).1
  have length := congrArg List.length ahead
  rw [List.length_drop, List.length_cons] at length
  refine ⟨here, ?_, by omega⟩
  rw [← List.tail_drop, ahead, List.tail_cons]

theorem run_eq (p : Char → Bool) (ahead : input.drop position = cs) :
    run input p position = some (cs.takeWhile p, position + (cs.takeWhile p).length) := by
  induction cs generalizing position with
  | nil =>
    rw [run, dif_pos (List.drop_eq_nil_iff.mp ahead)]
    rfl
  | cons c cs ih =>
    obtain ⟨here, behind, length⟩ := front_of_drop ahead
    rw [run, dif_neg (by omega), here, Option.bind_eq_bind, Option.bind_some]
    by_cases inside : p c = true
    · simp only [inside, if_true, ih behind, Option.bind_eq_bind, Option.bind_some,
        Option.pure_def, List.takeWhile_cons, List.length_cons]
      congr 2
      omega
    · simp [inside]

theorem run_of_filled {p : Char → Bool} (ahead : input.drop position = c :: cs)
    (filled : ¬ p c = true) : run input p position = some ([], position) := by
  rw [run_eq p ahead, List.takeWhile_cons_of_neg filled]
  rfl

theorem stringFrom_eq (ahead : input.drop position = cs) :
    stringFrom input start position =
      some (match stringBody cs with
        | some (text, rest) => .ok (text, input.length - rest.length)
        | none => .error (.unterminatedString start)) := by
  fun_induction stringBody cs generalizing position with
  | case1 => rw [stringFrom, dif_pos (List.drop_eq_nil_iff.mp ahead)]
  | case2 cs ih =>
    obtain ⟨here, next, length⟩ := front_of_drop ahead
    obtain ⟨there, behind, _⟩ := front_of_drop next
    rw [stringFrom, dif_neg (by omega), here, Option.bind_eq_bind, Option.bind_some, if_pos rfl,
      if_pos there, ih behind]
    cases stringBody cs <;> rfl
  | case3 cs other =>
    obtain ⟨here, behind, length⟩ := front_of_drop ahead
    have single : ¬ input[position + 1]? = some '\'' := by
      intro doubled
      rw [← List.head?_drop, behind] at doubled
      obtain ⟨rest, rfl⟩ := List.head?_eq_some_iff.mp doubled
      exact other rest rfl
    rw [stringFrom, dif_neg (by omega), here, Option.bind_eq_bind, Option.bind_some, if_pos rfl,
      if_neg single]
    have stop : position + 1 = input.length - cs.length := by omega
    rw [stop]
    rfl
  | case4 c cs _ other ih =>
    obtain ⟨here, behind, length⟩ := front_of_drop ahead
    rw [stringFrom, dif_neg (by omega), here, Option.bind_eq_bind, Option.bind_some,
      if_neg other, ih behind]
    cases stringBody cs <;> rfl

/-- The token at a position is the first token of the characters from there on. -/
theorem next_eq (ahead : input.drop position = c :: cs) :
    next input position =
      some ((Token.next position c cs).map fun (token, rest) =>
        (token, input.length - rest.length)) := by
  obtain ⟨here, behind, length⟩ := front_of_drop ahead
  -- A run of a class that begins with `c` ends where the characters after `c` leave the class.
  have stop (p : Char → Bool) (first : p c = true) :
      run input p position =
        some (c :: cs.takeWhile p, input.length - (cs.dropWhile p).length) := by
    have parts := congrArg List.length (List.takeWhile_append_dropWhile (p := p) (l := cs))
    rw [List.length_append] at parts
    rw [run_eq p ahead, List.takeWhile_cons_of_pos first, List.length_cons]
    congr 2
    omega
  rw [next, Token.next, here, Option.bind_eq_bind, Option.bind_some]
  cases Symbol.ofChar? c with
  | some symbol =>
    have after : position + 1 = input.length - cs.length := by omega
    rw [after]
    rfl
  | none =>
    by_cases letter : isAlphabetic c = true
    · have part : isWordPart c = true := by simp [isWordPart, isAlphanumeric, letter]
      simp only [letter, if_true, stop isWordPart part]
      rfl
    · by_cases digit : c.isDigit = true
      · simp only [letter, digit, if_true, stop Char.isDigit digit]
        rfl
      · by_cases quote : (c == '\'') = true
        · simp only [letter, digit, quote, if_true, stringFrom_eq behind]
          cases stringBody cs <;> rfl
        · simp only [letter, digit, quote]
          rfl

/-- Behind the white space, wherever that begins, stands the first token. -/
theorem tokens_of_token {blanks : List Char}
    (passed : run input isBlank start = some (blanks, position)) (before : start ≤ position)
    (ahead : input.drop position = c :: cs) :
    tokens input start =
      match Token.next position c cs with
      | .error e => some (.error e)
      | .ok (token, rest) =>
        (tokens input (input.length - rest.length)).map (·.map (token :: ·)) := by
  obtain ⟨_, _, length⟩ := front_of_drop ahead
  rw [tokens, passed]
  simp only [Option.bind_eq_bind, Option.bind_some]
  rw [if_neg (by omega), next_eq ahead]
  cases found : Token.next position c cs with
  | error e => rfl
  | ok result =>
    have taken := length_next found
    have moved : input.length - (input.length - result.2.length) < input.length - start := by
      omega
    simp only [Except.map, Option.bind_some, moved, dif_pos]
    cases tokens input (input.length - result.2.length) <;> rfl

theorem tokens_of_end {blanks : List Char}
    (passed : run input isBlank start = some (blanks, position))
    (finish : input.length ≤ position) :
    tokens input start = some (.ok [⟨⟨.endOfInput, ""⟩, input.length⟩]) := by
  rw [tokens, passed]
  simp only [Option.bind_eq_bind, Option.bind_some]
  rw [if_pos finish]
  rfl

/-- White space in front of a token is passed over. -/
theorem tokens_of_blank (ahead : input.drop position = c :: cs) (space : isBlank c = true) :
    tokens input position = tokens input (position + 1) := by
  obtain ⟨_, behind, length⟩ := front_of_drop ahead
  let stop := position + 1 + (cs.takeWhile isBlank).length
  have here : run input isBlank position = some (c :: cs.takeWhile isBlank, stop) := by
    rw [run_eq isBlank ahead, List.takeWhile_cons_of_pos space, List.length_cons]
    congr 2
    omega
  have next : run input isBlank (position + 1) = some (cs.takeWhile isBlank, stop) :=
    run_eq isBlank behind
  cases front : input.drop stop with
  | nil =>
    have finish := List.drop_eq_nil_iff.mp front
    rw [tokens_of_end here finish, tokens_of_end next finish]
  | cons d ds =>
    rw [tokens_of_token here (by omega) front, tokens_of_token next (by omega) front]

/-- The scan from a position inside the input is the reading of the characters from there on. -/
theorem tokens_eq (within : position ≤ input.length) (ahead : input.drop position = cs) :
    tokens input position = some (scan position cs) := by
  fun_induction scan position cs with
  | case1 position =>
    have finish := List.drop_eq_nil_iff.mp ahead
    obtain rfl : position = input.length := by omega
    exact tokens_of_end (run_eq isBlank ahead) (Nat.le_add_right _ _)
  | case2 position c cs space ih =>
    obtain ⟨_, behind, length⟩ := front_of_drop ahead
    rw [tokens_of_blank ahead space]
    exact ih (by omega) behind
  | case3 position c cs filled e failed =>
    rw [tokens_of_token (run_of_filled ahead filled) (Nat.le_refl _) ahead, failed]
  | case4 position c cs filled token rest found shorter ih =>
    obtain ⟨_, _, _, front⟩ := proper_of_next found
    obtain ⟨_, _, length⟩ := front_of_drop ahead
    have parts := congrArg List.length front
    rw [List.length_cons, List.length_append] at parts
    have stop : input.length - rest.length = position + token.spelling.length := by omega
    have behind : input.drop (position + token.spelling.length) = rest := by
      rw [← List.drop_drop, ahead, front, List.drop_left]
    rw [tokens_of_token (run_of_filled ahead filled) (Nat.le_refl _) ahead, found]
    simp only [stop, ih (by omega) behind, Option.map_some]

/-- Every text is scanned, and no character outside it is read. -/
theorem ofText_eq (text : String) : ofText text = some (Token.ofText text) :=
  tokens_eq (Nat.zero_le _) rfl

end ColumnStore.Scanner
