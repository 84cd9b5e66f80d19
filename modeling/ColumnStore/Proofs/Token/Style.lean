import ColumnStore.Proofs.Token.Stretch
import ColumnStore.Token.Style

/-!
# Style leaves the tokens

A text in another style is read as tokens that are alike. The text is cut where it is changed: what
stands before and behind are stretches, and these stay stretches because the classes of characters
do not see the case of ASCII letters, and because no token goes on with white space.
-/

namespace ColumnStore.Token

open Text

variable {ahead : Option Char} {position place : Nat} {c d : Char}
  {cs space back word word' text : List Char} {t : Token} {later tokens : List Token} {l : Lexeme}

/-! ## Classes of characters -/

/-- What is the same for the capitals from A to Z and their small letters does not see case. -/
theorem apply_toLower {α : Type} {f : Char → α}
    (letters : ∀ n ∈ List.range' 65 26, f (Char.ofNat n).toLower = f (Char.ofNat n)) (c : Char) :
    f c.toLower = f c := by
  by_cases upper : c.val ≥ 'A'.val ∧ c.val ≤ 'Z'.val
  · have low : 65 ≤ c.toNat := UInt32.le_iff_toNat_le.mp upper.1
    have high : c.toNat ≤ 90 := UInt32.le_iff_toNat_le.mp upper.2
    simpa using letters c.toNat (List.mem_range'_1.mpr ⟨low, by omega⟩)
  · have same : c.toLower = c := dif_neg upper
    rw [same]

theorem upper_toLower (c : Char) : upper c.toLower = upper c := apply_toLower (by decide +kernel) c

theorem isAlphabetic_toLower (c : Char) : isAlphabetic c.toLower = isAlphabetic c :=
  apply_toLower (by decide +kernel) c

theorem isWordPart_toLower (c : Char) : isWordPart c.toLower = isWordPart c :=
  apply_toLower (by decide +kernel) c

theorem isDigit_toLower (c : Char) : c.toLower.isDigit = c.isDigit :=
  apply_toLower (f := Char.isDigit) (by decide +kernel) c

theorem quote_toLower (c : Char) : decide (c.toLower = '\'') = decide (c = '\'') :=
  apply_toLower (f := fun c => decide (c = '\'')) (by decide +kernel) c

theorem takes_toLower : l.Takes c.toLower ↔ l.Takes c := by
  have quote := quote_toLower c
  rw [decide_eq_decide] at quote
  rw [Lexeme.Takes, Lexeme.Takes]
  split
  · rw [isWordPart_toLower]
  · rw [isWordPart_toLower]
  · rw [isDigit_toLower]
  · exact quote
  · rfl
  · rfl

theorem takes_congr (same : c.toLower = d.toLower) : l.Takes c ↔ l.Takes d := by
  rw [← takes_toLower, same, takes_toLower]

theorem not_isWordPart_of_isBlank (h : isBlank c = true) : isWordPart c = false := by
  have letter : isAlphabetic c = false := not_contains_of_apart (by decide +kernel) h
  have number : isNumeric c = false := not_contains_of_apart (by decide +kernel) h
  have underscore : c ≠ '_' := by
    rintro rfl
    revert h
    decide
  simp [isWordPart, isAlphanumeric, letter, number, underscore]

theorem not_takes_of_isBlank (h : isBlank c = true) : ¬ l.Takes c := by
  have word : isWordPart c = false := not_isWordPart_of_isBlank h
  intro taken
  rw [Lexeme.Takes] at taken
  split at taken
  · exact absurd taken (by simp [word])
  · exact absurd taken (by simp [word])
  · exact absurd (not_isBlank_of_isDigit taken) (by simp [h])
  · subst taken
    exact absurd h (by decide)
  · exact taken
  · exact taken

/-! ## Words in other letter case -/

theorem flatMap_upper_of_same (same : SameLetters word word') :
    word.flatMap upper = word'.flatMap upper := by
  have lowered (cs : List Char) : cs.flatMap upper = (cs.map Char.toLower).flatMap upper := by
    rw [List.flatMap_map]
    exact List.flatMap_congr fun c _ => (upper_toLower c).symm
  rw [lowered word, lowered word', same]

theorem isWord_map_toLower : IsWord (word.map Char.toLower) ↔ IsWord word := by
  cases word with
  | nil => rfl
  | cons c word => simp [IsWord, isAlphabetic_toLower, isWordPart_toLower]

theorem isWord_of_same (same : SameLetters word word') (h : IsWord word') : IsWord word := by
  rwa [← isWord_map_toLower, same, isWord_map_toLower]

/-- A keyword in other letter case is the same keyword. -/
theorem isProper_of_same {k : Keyword} {text : String} (same : SameLetters word text.toList)
    (proper : (⟨.keyword k, text⟩ : Lexeme).IsProper) :
    (⟨.keyword k, String.ofList word⟩ : Lexeme).IsProper := by
  obtain ⟨spelled, found⟩ := proper
  refine ⟨?_, ?_⟩
  · rw [String.toList_ofList]
    exact isWord_of_same same spelled
  · rw [upperCase, String.toList_ofList, flatMap_upper_of_same same]
    exact found

/-! ## Cutting a stretch -/

/-- A stretch is cut in two at any place that is inside no token. -/
theorem Stretch.split (h : Stretch ahead position cs tokens) (low : position ≤ place)
    (high : place ≤ position + cs.length)
    (between : ∀ t ∈ tokens, place ≤ t.position ∨ t.stop ≤ place) :
    ∃ front back body later, cs = front ++ back ∧ place = position + front.length ∧
      tokens = body ++ later ∧ Stretch (back.head?.or ahead) position front body ∧
      Stretch ahead place back later := by
  induction h with
  | finish position =>
    obtain rfl : place = position := by simpa using Nat.le_antisymm high low
    exact ⟨[], [], [], [], rfl, rfl, rfl, .finish _, .finish _⟩
  | @blank position c cs tokens space rest ih =>
    by_cases here : place = position
    · subst here
      exact ⟨[], c :: cs, [], tokens, rfl, rfl, rfl, .finish _, .blank space rest⟩
    · rw [List.length_cons] at high
      obtain ⟨front, back, body, later, rfl, reached, rfl, first, last⟩ :=
        ih (by omega) (by omega) between
      refine ⟨c :: front, back, body, later, rfl, ?_, rfl, .blank space first, last⟩
      rw [reached, List.length_cons]
      omega
  | @token position l rest tokens proper stops tail ih =>
    by_cases here : place = position
    · subst here
      exact ⟨[], _, [], _, rfl, rfl, rfl, .finish _, .token proper stops tail⟩
    · obtain ⟨away, between⟩ := List.forall_mem_cons.mp between
      have beyond : position + l.spelling.length ≤ place := by
        simp only [stop] at away
        omega
      rw [List.length_append] at high
      obtain ⟨front, back, body, later, rfl, reached, rfl, first, last⟩ :=
        ih beyond (by omega) between
      refine ⟨l.spelling ++ front, back, ⟨l, position⟩ :: body, later,
        (List.append_assoc _ _ _).symm, ?_, rfl,
        .token proper (by rwa [← head?_append_or]) first, last⟩
      rw [reached, List.length_append, Nat.add_assoc]

/-- A stretch is cut in three around any of its tokens. -/
theorem Stretch.split_mem (h : Stretch ahead position cs tokens) (member : t ∈ tokens) :
    ∃ front back body later, cs = front ++ (t.spelling ++ back) ∧
      t.position = position + front.length ∧ tokens = body ++ t :: later ∧ t.IsProper ∧
      (∀ c ∈ back.head?.or ahead, ¬ t.Takes c) ∧
      Stretch ((t.spelling ++ back).head?.or ahead) position front body ∧
      Stretch ahead t.stop back later := by
  induction h with
  | finish position => cases member
  | @blank position c cs tokens space _ ih =>
    obtain ⟨front, back, body, later, rfl, reached, rfl, proper, stops, first, last⟩ := ih member
    refine ⟨c :: front, back, body, later, rfl, ?_, rfl, proper, stops, .blank space first, last⟩
    rw [reached, List.length_cons]
    omega
  | @token position l rest tokens proper stops tail ih =>
    rcases List.mem_cons.mp member with rfl | member
    · exact ⟨[], rest, [], tokens, rfl, rfl, rfl, proper, stops, .finish _, tail⟩
    · obtain ⟨front, back, body, later, rfl, reached, rfl, fits, ends, first, last⟩ := ih member
      refine ⟨l.spelling ++ front, back, ⟨l, position⟩ :: body, later,
        (List.append_assoc _ _ _).symm, ?_, rfl, fits, ends,
        .token proper (by rwa [← head?_append_or]) first, last⟩
      rw [reached, List.length_append, Nat.add_assoc]

/-! ## Changes of style -/

theorem Alike.of_lexeme {t t' : Token} (same : t.toLexeme = t'.toLexeme) : t.Alike t' :=
  ⟨congrArg Lexeme.kind same, fun _ => congrArg Lexeme.text same⟩

theorem Alike.refl (t : Token) : t.Alike t := .of_lexeme rfl

theorem alike_refl (tokens : List Token) : List.Forall₂ Alike tokens tokens :=
  List.forall₂_same.mpr fun t _ => .refl t

theorem alike_append {body body' : List Token} (first : List.Forall₂ Alike body body')
    {later later' : List Token} (last : List.Forall₂ Alike later later') :
    List.Forall₂ Alike (body ++ later) (body' ++ later') :=
  List.rel_append first last

/-- A stretch may stand at any position. -/
theorem Stretch.shift (h : Stretch ahead position cs tokens) (place : Nat) :
    ∃ tokens', List.Forall₂ Alike tokens tokens' ∧ Stretch ahead place cs tokens' := by
  induction h generalizing place with
  | finish position => exact ⟨[], .nil, .finish place⟩
  | blank space _ ih =>
    obtain ⟨tokens', alike, stretch⟩ := ih (place + 1)
    exact ⟨tokens', alike, .blank space stretch⟩
  | @token position l rest tokens proper stops _ ih =>
    obtain ⟨tokens', alike, stretch⟩ := ih (place + l.spelling.length)
    exact ⟨⟨l, place⟩ :: tokens', .cons (.of_lexeme rfl) alike, .token proper stops stretch⟩

theorem Stretch.behind_space (blank : ∀ c ∈ space, isBlank c = true)
    (h : Stretch ahead (position + space.length) back tokens) :
    Stretch ahead position (space ++ back) tokens := by
  induction space generalizing position with
  | nil => exact h
  | cons c space ih =>
    obtain ⟨here, blank⟩ := List.forall_mem_cons.mp blank
    refine .blank here (ih blank ?_)
    rwa [List.length_cons, Nat.add_comm space.length, ← Nat.add_assoc] at h

/-- White space can be put in at any place that is inside no token. -/
theorem Stretch.spaced (h : Stretch none 0 text tokens) (within : place ≤ text.length)
    (blank : ∀ c ∈ space, isBlank c = true)
    (between : ∀ t ∈ tokens, place ≤ t.position ∨ t.stop ≤ place) :
    ∃ tokens', List.Forall₂ Alike tokens tokens' ∧
      Stretch none 0 (text.take place ++ (space ++ text.drop place)) tokens' := by
  obtain ⟨front, back, body, later, rfl, reached, rfl, first, last⟩ :=
    h.split (Nat.zero_le _) (by omega) between
  rw [Nat.zero_add] at reached
  obtain ⟨later', alike, moved⟩ := last.shift (0 + front.length + space.length)
  rw [reached, List.take_left, List.drop_left]
  refine ⟨body ++ later', alike_append (alike_refl body) alike,
    .append (first.before fun l stops c next => ?_) (.behind_space blank moved)⟩
  cases space with
  | nil => exact stops c next
  | cons d space =>
    obtain rfl : d = c := by simpa using next
    exact not_takes_of_isBlank (blank d List.mem_cons_self)

/-- What stands before a word stays a stretch when the word is written in other letter case. -/
theorem Stretch.before_same (h : Stretch ((word' ++ back).head?.or ahead) position cs tokens)
    (same : SameLetters word word') :
    Stretch ((word ++ back).head?.or ahead) position cs tokens := by
  refine h.before fun l stops c next => ?_
  cases word with
  | nil =>
    obtain rfl : word' = [] := List.map_eq_nil_iff.mp same.symm
    exact stops c next
  | cons d word =>
    obtain ⟨d', rest, rfl, first, _⟩ := List.map_eq_cons_iff.mp same.symm
    obtain rfl : d = c := by simpa using next
    rw [← takes_congr first]
    exact stops d' (by simp)

/-- A keyword can be written in other letter case. -/
theorem Stretch.recased {k : Keyword} (h : Stretch none 0 text tokens) (member : t ∈ tokens)
    (keyword : t.kind = .keyword k) (same : SameLetters word t.text.toList) :
    ∃ tokens', List.Forall₂ Alike tokens tokens' ∧
      Stretch none 0 (text.take t.position ++ (word ++ text.drop t.stop)) tokens' := by
  obtain ⟨front, back, body, later, rfl, reached, rfl, proper, stops, first, last⟩ :=
    h.split_mem member
  obtain ⟨⟨kind, written⟩, position⟩ := t
  obtain rfl : kind = .keyword k := keyword
  have size : word.length = written.toList.length := by
    simpa using congrArg List.length same
  let recased : Lexeme := ⟨.keyword k, String.ofList word⟩
  have spelling : recased.spelling = word := String.toList_ofList
  obtain rfl : position = front.length := by simpa using reached
  have behind : (front ++ (written.toList ++ back)).drop (front.length + written.toList.length) =
      back := by
    rw [← List.drop_drop, List.drop_left, List.drop_left]
  have rest : Stretch none (front.length + recased.spelling.length) back later := by
    rw [spelling, size]
    exact last
  have token := Stretch.token (isProper_of_same same proper) stops rest
  refine ⟨body ++ ⟨recased, front.length⟩ :: later, alike_append (alike_refl body)
    (.cons ⟨rfl, by simp⟩ (alike_refl later)), ?_⟩
  simp only [stop, Lexeme.spelling, List.take_left, behind]
  rw [spelling] at token
  exact .append (first.before_same same) (by rwa [Nat.zero_add])

/-- A text in another style is read as tokens that are alike. -/
theorem alike_of_restyles {text text' : String} {tokens : List Token}
    (read : ofText text = .ok tokens) (restyled : Restyles text text') :
    ∃ tokens', ofText text' = .ok tokens' ∧ List.Forall₂ Alike tokens tokens' := by
  obtain ⟨found, same, restyled⟩ := restyled
  obtain rfl := Except.ok.inj (read.symm.trans same)
  obtain ⟨body, rfl, stretch⟩ := scan_eq_ok_iff_stretch.mp read
  have changed : ∃ body', List.Forall₂ Alike body body' ∧ Stretch none 0 text'.toList body' := by
    generalize text'.toList = cs at restyled
    cases restyled with
    | spaced place space within blank between =>
      exact stretch.spaced within blank fun t member => between t (List.mem_append_left _ member)
    | recased t k word member keyword same =>
      rcases List.mem_append.mp member with inside | last
      · exact stretch.recased inside keyword same
      · cases List.mem_singleton.mp last
        cases keyword
  obtain ⟨body', alike, stretch'⟩ := changed
  refine ⟨_, scan_of_stretch stretch', alike_append alike (.cons ⟨rfl, ?_⟩ .nil)⟩
  simp [ending]

end ColumnStore.Token
