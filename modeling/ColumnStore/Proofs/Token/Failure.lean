import ColumnStore.Proofs.Token.Stretch

/-!
# Where reading fails

A text without tokens fails at the first character that begins neither a token nor white space, or
at the opening quote of a string that is never closed. What stands before that place is a stretch,
so it is read by itself, and what stands behind it has no part in a character that is refused. A
string that was left open needs nothing but its closing quote.
-/

namespace ColumnStore.Token

open Text

variable {position : Nat} {c : Char} {cs : List Char} {e : LexError} {text : String}

/-- Neither a token nor white space begins with the character. -/
structure BeginsNothing (c : Char) : Prop where
  blank : isBlank c = false
  symbol : Symbol.ofChar? c = none
  letter : isAlphabetic c = false
  digit : c.isDigit = false
  quote : c ≠ '\''

/-- The text is whole up to a character that begins nothing, and so is each text that begins with
the same characters up to it. -/
structure RefusedAt (text : String) (c : Char) (position : Nat) : Prop where
  here : text.toList[position]? = some c
  nothing : BeginsNothing c
  before : ∃ tokens, ofText (String.ofList (text.toList.take position)) = .ok tokens
  after : ∀ other : String,
    other.toList.take (position + 1) = text.toList.take (position + 1) →
      ofText other = .error (.unexpectedCharacter c position)

/-- The text is whole up to a quote, behind which every quote is doubled, and one more quote makes a
string of all that is behind it. -/
structure OpenFrom (text : String) (position : Nat) : Prop where
  here : text.toList[position]? = some '\''
  closed : ∃ body content,
    ofText (String.ofList (text.toList.take position)) = .ok (body ++ [ending position]) ∧
      text.toList.drop (position + 1) = doubleQuotes content ∧
      ofText (text ++ "'") = .ok
        (body ++ [⟨⟨.string, String.ofList content⟩, position⟩, ending (text.length + 1)])

/-! ## One token -/

/-- A string is left open when every quote in it is doubled. -/
theorem stringBody_eq_none_iff : stringBody cs = none ↔ ∃ content, cs = doubleQuotes content := by
  constructor
  · intro h
    fun_induction stringBody cs with
    | case1 => exact ⟨[], rfl⟩
    | case2 cs ih =>
      obtain ⟨content, rfl⟩ := ih (Option.map_eq_none_iff.mp h)
      exact ⟨'\'' :: content, rfl⟩
    | case3 => cases h
    | case4 c cs _ other ih =>
      obtain ⟨content, rfl⟩ := ih (Option.map_eq_none_iff.mp h)
      exact ⟨c :: content, (doubleQuotes_cons other).symm⟩
  · rintro ⟨content, rfl⟩
    induction content with
    | nil => rfl
    | cons c content ih =>
      by_cases quote : c = '\''
      · subst quote
        rw [doubleQuotes_quote, stringBody, ih, Option.map_none]
      · simp [doubleQuotes_cons quote, stringBody, quote, ih]

/-- A character that is no white space begins no token, or it opens a string that stays open. -/
theorem next_eq_error_iff (space : isBlank c = false) :
    next position c cs = .error e ↔
      BeginsNothing c ∧ e = .unexpectedCharacter c position ∨
        c = '\'' ∧ stringBody cs = none ∧ e = .unterminatedString position := by
  have quote : ¬ BeginsNothing '\'' := fun nothing => nothing.quote rfl
  cases symbol : Symbol.ofChar? c with
  | some s =>
    have begun : ¬ BeginsNothing c := fun nothing => by simp [nothing.symbol] at symbol
    have other : c ≠ '\'' := by
      rintro rfl
      cases symbol
    simp [next_symbol symbol, begun, other]
  | none =>
    by_cases letter : isAlphabetic c = true
    · have begun : ¬ BeginsNothing c := fun nothing => by simp [nothing.letter] at letter
      have other : c ≠ '\'' := by
        rintro rfl
        revert letter
        decide +kernel
      simp [next_word letter, begun, other]
    · by_cases digit : c.isDigit = true
      · have begun : ¬ BeginsNothing c := fun nothing => by simp [nothing.digit] at digit
        have other : c ≠ '\'' := by
          rintro rfl
          revert digit
          decide
        simp [next_number digit, begun, other]
      · by_cases opened : c = '\''
        · subst opened
          rw [next_string]
          cases stringBody cs <;> simp [quote, eq_comm]
        · have nothing : BeginsNothing c :=
            ⟨space, symbol, eq_false_of_ne_true letter, eq_false_of_ne_true digit, opened⟩
          simp [next_error symbol letter digit opened, nothing, opened, eq_comm]

/-! ## Whole texts -/

/-- Reading fails at the first character behind a stretch that begins no token. -/
theorem scan_eq_error_iff :
    scan position cs = .error e ↔
      ∃ front c rest body, cs = front ++ c :: rest ∧ Stretch (some c) position front body ∧
        isBlank c = false ∧ next (position + front.length) c rest = .error e := by
  constructor
  · intro h
    fun_induction scan position cs with
    | case1 => cases h
    | case2 position c cs space ih =>
      obtain ⟨front, d, rest, body, rfl, stretch, visible, failed⟩ := ih h
      refine ⟨c :: front, d, rest, body, rfl, .blank space stretch, visible, ?_⟩
      rwa [List.length_cons, Nat.add_comm front.length, ← Nat.add_assoc]
    | case3 position c cs space error failed =>
      cases h
      exact ⟨[], c, cs, [], rfl, .finish position, eq_false_of_ne_true space, failed⟩
    | case4 position c cs _ token rest found _ ih =>
      have unread : scan (position + token.spelling.length) rest = .error e := by
        cases read : scan (position + token.spelling.length) rest with
        | error other => simpa [read, Except.map] using h
        | ok tokens => simp [read, Except.map] at h
      obtain ⟨rfl, proper, stops, written⟩ := proper_of_next found
      obtain ⟨front, d, behind, body, rfl, stretch, visible, failed⟩ := ih unread
      refine ⟨token.spelling ++ front, d, behind, token :: body, by rw [written, List.append_assoc],
        .token proper (by rwa [List.head?_append] at stops) stretch, visible, ?_⟩
      rwa [List.length_append, ← Nat.add_assoc]
  · rintro ⟨front, c, rest, body, rfl, stretch, visible, failed⟩
    have read : scan position (front ++ c :: rest) = _ := scan_append stretch
    rw [read, scan_cons visible, failed]
    rfl

/-- A stretch at the front of a text is read as it is when the text is cut behind it. -/
theorem ofText_take {front rest : List Char} {body : List Token}
    (written : text.toList = front ++ c :: rest) (stretch : Stretch (some c) 0 front body) :
    ofText (String.ofList (text.toList.take front.length)) =
      .ok (body ++ [ending front.length]) := by
  rw [written, List.take_left, ofText, String.toList_ofList, scan_of_stretch stretch.alone,
    Nat.zero_add]

theorem getElem?_front {front rest : List Char} (written : text.toList = front ++ c :: rest) :
    text.toList[front.length]? = some c := by
  rw [written, List.getElem?_append_right (Nat.le_refl _), Nat.sub_self]
  rfl

theorem refusedAt_of_stretch {front rest : List Char} {body : List Token}
    (written : text.toList = front ++ c :: rest) (stretch : Stretch (some c) 0 front body)
    (nothing : BeginsNothing c) : RefusedAt text c front.length where
  here := getElem?_front written
  nothing := nothing
  before := ⟨_, ofText_take written stretch⟩
  after := by
    intro other same
    have begun : text.toList.take (front.length + 1) = front ++ [c] := by
      rw [written, List.append_cons, List.take_left' (by simp)]
    rw [begun] at same
    rw [ofText, scan_eq_error_iff]
    refine ⟨front, c, other.toList.drop (front.length + 1), body, ?_, stretch, nothing.blank, ?_⟩
    · rw [List.append_cons, ← same, List.take_append_drop]
    · rw [next_eq_error_iff nothing.blank, Nat.zero_add]
      exact .inl ⟨nothing, rfl⟩

theorem openFrom_of_stretch {front content : List Char} {body : List Token}
    (written : text.toList = front ++ '\'' :: doubleQuotes content)
    (stretch : Stretch (some '\'') 0 front body) : OpenFrom text front.length where
  here := getElem?_front written
  closed := by
    have size : text.length = front.length + ((doubleQuotes content).length + 1) := by
      rw [← String.length_toList, written, List.length_append, List.length_cons]
    refine ⟨body, content, ofText_take written stretch, ?_, ?_⟩
    · rw [written, List.append_cons, List.drop_left' (by simp)]
    · let string : Lexeme := ⟨.string, String.ofList content⟩
      have spelling : string.spelling = '\'' :: doubleQuotes content ++ ['\''] := by
        simp [string, Lexeme.spelling]
      have last : Stretch none (0 + front.length) (string.spelling ++ [])
          [⟨string, 0 + front.length⟩] :=
        .token trivial (by simp) (.finish _)
      rw [List.append_nil, spelling] at last
      have both : Stretch none 0 (front ++ ('\'' :: doubleQuotes content ++ ['\'']))
          (body ++ [⟨string, 0 + front.length⟩]) := .append stretch last
      have whole := scan_of_stretch both
      rw [ofText, String.toList_append, written, size]
      simpa [string, Nat.add_assoc] using whole

/-- Reading a text fails in one of two ways. Either a character begins nothing, and then what is
before it is read by itself and what is behind it does not matter; or a string is left open, and
then one more quote closes it with all that is behind its opening quote. -/
theorem failures_at_first_offence {text : String} {e : LexError} (failed : ofText text = .error e) :
    (∃ c position, e = .unexpectedCharacter c position ∧ RefusedAt text c position) ∨
      ∃ position, e = .unterminatedString position ∧ OpenFrom text position := by
  obtain ⟨front, c, rest, body, written, stretch, visible, found⟩ := scan_eq_error_iff.mp failed
  rw [next_eq_error_iff visible, Nat.zero_add] at found
  rcases found with ⟨nothing, rfl⟩ | ⟨rfl, unclosed, rfl⟩
  · exact .inl ⟨c, _, rfl, refusedAt_of_stretch written stretch nothing⟩
  · obtain ⟨content, rfl⟩ := stringBody_eq_none_iff.mp unclosed
    exact .inr ⟨_, rfl, openFrom_of_stretch written stretch⟩

/-- An underscore cannot begin a word, and a string that ends in two quotes is still open. -/
theorem failures_at_first_offence_both :
    ofText "INSERT _x 'a" = .error (.unexpectedCharacter '_' 7) ∧
      RefusedAt "INSERT _x 'a" '_' 7 ∧
      ofText "name 'it''s ''" = .error (.unterminatedString 5) ∧
      OpenFrom "name 'it''s ''" 5 := by
  have refused : ofText "INSERT _x 'a" = .error (.unexpectedCharacter '_' 7) := by
    decide +kernel
  have unclosed : ofText "name 'it''s ''" = .error (.unterminatedString 5) := by
    decide +kernel
  refine ⟨refused, ?_, unclosed, ?_⟩
  · rcases failures_at_first_offence refused with ⟨_, _, same, place⟩ | ⟨_, same, _⟩
    · cases same
      exact place
    · cases same
  · rcases failures_at_first_offence unclosed with ⟨_, _, same, _⟩ | ⟨_, same, place⟩
    · cases same
    · cases same
      exact place

end ColumnStore.Token
