import ColumnStore.Proofs.Refusal
import ColumnStore.Token.Layout

/-!
# Reading a laid out text

A layout cuts a text into white space and proper lexemes, each as long as it can be. Reading a
text finds the tokens of its layout: it succeeds on the texts that have one, and none has two.
-/

namespace ColumnStore.Token

open Text

variable {position : Nat} {c : Char} {cs body rest text : List Char} {l : Lexeme}
  {tokens : List Token}

/-- The characters from a position on, as white space and the spellings of tokens. -/
inductive Layout : Nat → List Char → List Token → Prop
  | finish (position : Nat) : Layout position [] [ending position]
  | blank {position : Nat} {c : Char} {cs : List Char} {tokens : List Token}
      (space : isBlank c = true) (later : Layout (position + 1) cs tokens) :
      Layout position (c :: cs) tokens
  | token {position : Nat} {l : Lexeme} {rest : List Char} {tokens : List Token}
      (proper : l.IsProper) (stops : ∀ c ∈ rest.head?, ¬ l.Takes c)
      (later : Layout (position + l.spelling.length) rest tokens) :
      Layout position (l.spelling ++ rest) (⟨l, position⟩ :: tokens)

/-! ## Classes of characters -/

/-- Spans have no member in common when each pair of them is apart. -/
theorem not_contains_of_apart {left right : Spans} {n : Nat}
    (apart : ∀ a ∈ left, ∀ b ∈ right, a.2 < b.1 ∨ b.2 < a.1) (h : left.contains n = true) :
    right.contains n = false := by
  cases other : right.contains n with
  | false => rfl
  | true =>
    obtain ⟨a, here, low, high⟩ := Spans.exists_span h
    obtain ⟨b, there, lower, higher⟩ := Spans.exists_span other
    rcases apart a here b there with before | behind <;> omega

theorem not_isBlank_of_isAlphabetic (h : isAlphabetic c = true) : isBlank c = false :=
  not_contains_of_apart (by decide +kernel) h

theorem contains_of_isDigit (h : c.isDigit = true) :
    Spans.contains [(0x30, 0x39)] c.toNat = true := by
  have bounds := Char.isDigit_iff_toNat.mp h
  simpa [Spans.contains] using bounds

theorem not_isAlphabetic_of_isDigit (h : c.isDigit = true) : isAlphabetic c = false :=
  not_contains_of_apart (by decide +kernel) (contains_of_isDigit h)

theorem not_isBlank_of_isDigit (h : c.isDigit = true) : isBlank c = false :=
  not_contains_of_apart (by decide +kernel) (contains_of_isDigit h)

/-- A symbol begins no other token, and is no white space. -/
theorem ofChar?_eq_none_of_isAlphabetic (h : isAlphabetic c = true) : Symbol.ofChar? c = none := by
  cases begun : Symbol.ofChar? c with
  | none => rfl
  | some s =>
    rw [Symbol.ofChar?_eq_some_iff.mp begun] at h
    revert h
    cases s <;> decide +kernel

theorem ofChar?_eq_none_of_isDigit (h : c.isDigit = true) : Symbol.ofChar? c = none := by
  cases begun : Symbol.ofChar? c with
  | none => rfl
  | some s =>
    rw [Symbol.ofChar?_eq_some_iff.mp begun] at h
    revert h
    cases s <;> decide

theorem not_isBlank_char (s : Symbol) : isBlank s.char = false := by
  cases s <;> decide

/-! ## Runs and strings -/

/-- The longest run of a class ends where the class stops. -/
theorem span_spec (p : Char → Bool) (cs : List Char) :
    cs = cs.takeWhile p ++ cs.dropWhile p ∧ (∀ c ∈ cs.takeWhile p, p c = true) ∧
      ∀ c ∈ (cs.dropWhile p).head?, ¬ p c = true := by
  refine ⟨List.takeWhile_append_dropWhile.symm, fun c member => ?_, fun c next => ?_⟩
  · exact List.all_eq_true.mp List.all_takeWhile c member
  · have stopped := List.head?_dropWhile_not p cs
    rw [next] at stopped
    simpa using stopped

theorem span_append {p : Char → Bool} (inside : ∀ c ∈ body, p c = true)
    (stops : ∀ c ∈ rest.head?, ¬ p c = true) :
    (body ++ rest).takeWhile p = body ∧ (body ++ rest).dropWhile p = rest := by
  rw [List.takeWhile_append_of_pos inside, List.dropWhile_append_of_pos inside]
  cases rest with
  | nil => simp
  | cons c rest =>
    have stopped := stops c rfl
    simp [stopped]

theorem doubleQuotes_quote (cs : List Char) :
    doubleQuotes ('\'' :: cs) = '\'' :: '\'' :: doubleQuotes cs := rfl

theorem doubleQuotes_cons (other : c ≠ '\'') : doubleQuotes (c :: cs) = c :: doubleQuotes cs := by
  simp [doubleQuotes, other]

/-- A body ends at the first quote that is not doubled. -/
theorem stringBody_eq_some_iff :
    stringBody cs = some (body, rest) ↔
      cs = doubleQuotes body ++ '\'' :: rest ∧ ∀ c ∈ rest.head?, c ≠ '\'' := by
  constructor
  · intro h
    fun_induction stringBody cs generalizing body rest with
    | case1 => cases h
    | case2 cs ih =>
      obtain ⟨⟨inner, behind⟩, read, same⟩ := Option.map_eq_some_iff.mp h
      cases same
      obtain ⟨rfl, stops⟩ := ih read
      exact ⟨by rw [doubleQuotes_quote]; rfl, stops⟩
    | case3 cs single =>
      cases h
      refine ⟨rfl, fun c next same => ?_⟩
      obtain ⟨tail, rfl⟩ := List.head?_eq_some_iff.mp (same ▸ next)
      exact single tail rfl
    | case4 c cs single other ih =>
      obtain ⟨⟨inner, behind⟩, read, same⟩ := Option.map_eq_some_iff.mp h
      cases same
      obtain ⟨rfl, stops⟩ := ih read
      exact ⟨by rw [doubleQuotes_cons other]; rfl, stops⟩
  · rintro ⟨rfl, stops⟩
    induction body with
    | nil =>
      cases rest with
      | nil => rfl
      | cons c rest =>
        have other : c ≠ '\'' := stops c rfl
        simp [doubleQuotes, stringBody, other]
    | cons c body ih =>
      by_cases quote : c = '\''
      · subst quote
        simp [doubleQuotes_quote, stringBody, ih]
      · simp [doubleQuotes_cons quote, stringBody, quote, ih]

/-! ## One token -/

theorem wordKind_eq_keyword_iff {word : String} {k : Keyword} :
    wordKind word = .keyword k ↔ Keyword.ofSpelling? (upperCase word) = some k := by
  rw [wordKind]
  cases Keyword.ofSpelling? (upperCase word) <;> simp

theorem wordKind_eq_identifier_iff {word : String} :
    wordKind word = .identifier ↔ Keyword.ofSpelling? (upperCase word) = none := by
  rw [wordKind]
  cases Keyword.ofSpelling? (upperCase word) <;> simp

/-- The lexeme of a word, be it a keyword or not. -/
def ofWord (word : List Char) : Lexeme := ⟨wordKind (String.ofList word), String.ofList word⟩

theorem ofWord_spec (word : List Char) :
    ((ofWord word).IsProper ↔ IsWord word) ∧ (ofWord word).spelling = word ∧
      ∀ c, (ofWord word).Takes c ↔ isWordPart c = true := by
  cases spelled : Keyword.ofSpelling? (upperCase (String.ofList word)) with
  | none =>
    have kind := wordKind_eq_identifier_iff.mpr spelled
    simp [ofWord, Lexeme.IsProper, IsName, Lexeme.spelling, Lexeme.Takes, kind, spelled]
  | some k =>
    have kind := wordKind_eq_keyword_iff.mpr spelled
    simp [ofWord, Lexeme.IsProper, Lexeme.spelling, Lexeme.Takes, kind, spelled]

theorem next_symbol {s : Symbol} (symbol : Symbol.ofChar? c = some s) :
    next position c cs = .ok (⟨⟨.symbol s, String.ofList [c]⟩, position⟩, cs) := by
  simp only [next, symbol]

theorem next_word (letter : isAlphabetic c = true) :
    next position c cs =
      .ok (⟨ofWord (c :: cs.takeWhile isWordPart), position⟩, cs.dropWhile isWordPart) := by
  simp only [next, ofChar?_eq_none_of_isAlphabetic letter, letter, if_true, ofWord]

theorem next_number (digit : c.isDigit = true) :
    next position c cs =
      .ok (⟨⟨.number, String.ofList (c :: cs.takeWhile Char.isDigit)⟩, position⟩,
        cs.dropWhile Char.isDigit) := by
  simp only [next, ofChar?_eq_none_of_isDigit digit, not_isAlphabetic_of_isDigit digit, digit,
    Bool.false_eq_true, if_false, if_true]

theorem next_string :
    next position '\'' cs =
      match stringBody cs with
      | some (text, rest) => .ok (⟨⟨.string, String.ofList text⟩, position⟩, rest)
      | none => .error (.unterminatedString position) := by
  have letter : isAlphabetic '\'' = false := by decide +kernel
  simp only [next, Symbol.ofChar?, letter]
  cases stringBody cs <;> rfl

theorem next_error (symbol : Symbol.ofChar? c = none) (letter : ¬ isAlphabetic c = true)
    (digit : ¬ c.isDigit = true) (quote : c ≠ '\'') :
    next position c cs = .error (.unexpectedCharacter c position) := by
  simp [next, symbol, letter, digit, quote]

/-- A token is proper, its spelling stands at the front, and it stops where it has to. -/
theorem proper_of_next {token : Token} (h : next position c cs = .ok (token, rest)) :
    token.position = position ∧ token.IsProper ∧ (∀ d ∈ rest.head?, ¬ token.Takes d) ∧
      c :: cs = token.spelling ++ rest := by
  cases symbol : Symbol.ofChar? c with
  | some s =>
    rw [next_symbol symbol] at h
    cases h
    obtain rfl := Symbol.ofChar?_eq_some_iff.mp symbol
    simp [Lexeme.IsProper, Lexeme.spelling, Lexeme.Takes]
  | none =>
    by_cases letter : isAlphabetic c = true
    · rw [next_word letter, Except.ok.injEq, Prod.mk.injEq] at h
      obtain ⟨rfl, rfl⟩ := h
      obtain ⟨whole, inside, stops⟩ := span_spec isWordPart cs
      obtain ⟨proper, spelling, takes⟩ := ofWord_spec (c :: cs.takeWhile isWordPart)
      -- the kind of the word is not looked at
      generalize ofWord (c :: cs.takeWhile isWordPart) = l at proper spelling takes ⊢
      refine ⟨rfl, proper.mpr ⟨letter, inside⟩, ?_, ?_⟩
      · intro d next taken
        exact stops d next ((takes d).mp taken)
      · rw [spelling, List.cons_append, ← whole]
    · by_cases digit : c.isDigit = true
      · rw [next_number digit] at h
        obtain ⟨whole, _, stops⟩ := span_spec Char.isDigit cs
        cases h
        refine ⟨rfl, ?_, stops, ?_⟩
        · simp [Lexeme.IsProper, Decimal.isDigits, digit]
        · simp [Lexeme.spelling, ← whole]
      · by_cases quote : c = '\''
        · subst quote
          rw [next_string] at h
          cases read : stringBody cs with
          | none => simp [read] at h
          | some pair =>
            obtain ⟨body, behind⟩ := pair
            obtain ⟨rfl, stops⟩ := stringBody_eq_some_iff.mp read
            simp only [read] at h
            cases h
            refine ⟨rfl, trivial, stops, ?_⟩
            simp [Lexeme.spelling]
        · rw [next_error symbol letter digit quote] at h
          cases h

/-- A proper lexeme at the front is the next token if it stops where it has to. -/
theorem next_of_proper (proper : l.IsProper) (stops : ∀ d ∈ rest.head?, ¬ l.Takes d) :
    ∃ c cs, l.spelling ++ rest = c :: cs ∧ isBlank c = false ∧
      next position c cs = .ok (⟨l, position⟩, rest) := by
  have word (same : l = ofWord l.text.toList) (word : IsWord l.text.toList) :
      ∃ c cs, l.spelling ++ rest = c :: cs ∧ isBlank c = false ∧
        next position c cs = .ok (⟨l, position⟩, rest) := by
    obtain ⟨_, spelling, takes⟩ := ofWord_spec l.text.toList
    rw [← same] at spelling takes
    cases written : l.text.toList with
    | nil => simp [written, IsWord] at word
    | cons first later =>
      rw [written] at spelling word same
      obtain ⟨letter, inside⟩ := word
      obtain ⟨front, behind⟩ :=
        span_append inside fun d next taken => stops d next ((takes d).mpr taken)
      refine ⟨first, later ++ rest, by rw [spelling]; rfl, not_isBlank_of_isAlphabetic letter, ?_⟩
      rw [next_word letter, front, behind, ← same]
  obtain ⟨kind, text⟩ := l
  cases kind with
  | keyword k =>
    have kind : wordKind text = .keyword k := wordKind_eq_keyword_iff.mpr proper.2
    exact word (by simp [ofWord, kind]) proper.1
  | identifier =>
    have kind : wordKind text = .identifier := wordKind_eq_identifier_iff.mpr proper.2
    exact word (by simp [ofWord, kind]) proper.1
  | symbol s =>
    have written : text = String.ofList [s.char] := proper
    subst written
    exact ⟨s.char, rest, by simp [Lexeme.spelling], not_isBlank_char s,
      next_symbol (Symbol.ofChar?_eq_some_iff.mpr rfl)⟩
  | number =>
    have digits : Decimal.isDigits text.toList = true := proper
    cases written : text.toList with
    | nil => simp [written, Decimal.isDigits] at digits
    | cons first later =>
      simp only [written, Decimal.isDigits, List.isEmpty_cons, Bool.not_false, Bool.true_and,
        List.all_cons, Bool.and_eq_true, List.all_eq_true] at digits
      obtain ⟨digit, inside⟩ := digits
      obtain ⟨front, behind⟩ := span_append inside stops
      refine ⟨first, later ++ rest, by simp [Lexeme.spelling, written],
        not_isBlank_of_isDigit digit, ?_⟩
      rw [next_number digit, front, behind, ← written, String.ofList_toList]
  | string =>
    have read : stringBody (doubleQuotes text.toList ++ '\'' :: rest) = some (text.toList, rest) :=
      stringBody_eq_some_iff.mpr ⟨rfl, stops⟩
    refine ⟨'\'', doubleQuotes text.toList ++ '\'' :: rest, by simp [Lexeme.spelling],
      by decide, ?_⟩
    rw [next_string, read]
    simp only [String.ofList_toList]
  | endOfInput => exact proper.elim

theorem spelling_ne_nil (proper : l.IsProper) : l.spelling ≠ [] := by
  have front : ∃ c cs, l.spelling ++ [] = c :: cs ∧ isBlank c = false ∧
      next 0 c cs = .ok (⟨l, 0⟩, []) :=
    next_of_proper proper (by simp)
  obtain ⟨c, cs, written, _⟩ := front
  intro empty
  simp [empty] at written

/-! ## Whole texts -/

theorem layout_of_scan (h : scan position cs = .ok tokens) : Layout position cs tokens := by
  fun_induction scan position cs generalizing tokens with
  | case1 position =>
    cases h
    exact .finish position
  | case2 position c cs space ih => exact .blank space (ih h)
  | case3 => cases h
  | case4 position c cs _ token rest found _ ih =>
    obtain ⟨later, read, rfl⟩ := map_eq_ok_iff.mp h
    obtain ⟨rfl, proper, stops, front⟩ := proper_of_next found
    rw [front]
    exact .token proper stops (ih read)

theorem scan_of_layout (h : Layout position cs tokens) : scan position cs = .ok tokens := by
  induction h with
  | finish position => rw [scan, ending]
  | blank space _ ih => rw [scan, if_pos space, ih]
  | @token position l rest tokens proper stops _ ih =>
    obtain ⟨c, cs, front, space, found⟩ := next_of_proper proper stops
    rw [front, scan, if_neg (by simp [space])]
    split
    · next unfound =>
      rw [found] at unfound
      cases unfound
    · next other =>
      rw [found] at other
      cases other
      rw [ih]
      rfl

/-- A text is read as the tokens of its layout. -/
theorem scan_eq_ok_iff : scan position cs = .ok tokens ↔ Layout position cs tokens :=
  ⟨layout_of_scan, scan_of_layout⟩

theorem exists_proper_of_layout (h : Layout position cs tokens) :
    ∃ body length, tokens = body ++ [ending length] ∧ ∀ token ∈ body, token.IsProper := by
  induction h with
  | finish position => exact ⟨[], position, rfl, by simp⟩
  | blank _ _ ih => exact ih
  | @token position l rest tokens proper _ _ ih =>
    obtain ⟨body, length, rfl, later⟩ := ih
    exact ⟨⟨l, position⟩ :: body, length, rfl, List.forall_mem_cons.mpr ⟨proper, later⟩⟩

/-- A text is read as one token without white space exactly if that is proper by itself. -/
theorem ofText_eq_single_iff {text : String} (spelled : l.spelling = text.toList) :
    ofText text = .ok [⟨l, 0⟩, ending text.length] ↔ l.IsProper := by
  rw [ofText, scan_eq_ok_iff]
  constructor
  · intro layout
    obtain ⟨body, length, same, proper⟩ := exists_proper_of_layout layout
    have same : [⟨l, 0⟩] ++ [ending text.length] = body ++ [ending length] := same
    obtain ⟨rfl, _⟩ := List.append_inj' same rfl
    exact proper _ (List.mem_singleton_self _)
  · intro proper
    have layout : Layout 0 (l.spelling ++ []) [⟨l, 0⟩, ending (0 + l.spelling.length)] :=
      .token proper (by simp) (.finish _)
    simpa [spelled, ← String.length_toList] using layout

theorem isIdentifier_iff {name : String} : IsIdentifier name ↔ IsName name :=
  ofText_eq_single_iff (l := ⟨.identifier, name⟩) rfl

theorem isNumber_iff {text : String} : IsNumber text ↔ Decimal.isDigits text.toList = true :=
  ofText_eq_single_iff (l := ⟨.number, text⟩) rfl

end ColumnStore.Token
