import ColumnStore.Proofs.Token.Layout

/-!
# Stretches of a text

A stretch is a part of a text that is cut into white space and whole tokens, as a layout is, where
something may follow. The only thing that the tokens of a stretch have to do with what follows is
its first character, which must not go on with the last of them. So a text is read stretch by
stretch, and one stretch may be put in place of another.
-/

namespace ColumnStore.Token

open Text

variable {ahead ahead' : Option Char} {position : Nat} {c : Char} {cs front back : List Char}
  {body later tokens : List Token}

/-- The characters from a position on, as white space and the spellings of tokens, with the
character that follows them, if any. -/
inductive Stretch (ahead : Option Char) : Nat → List Char → List Token → Prop
  | finish (position : Nat) : Stretch ahead position [] []
  | blank {position : Nat} {c : Char} {cs : List Char} {tokens : List Token}
      (space : isBlank c = true) (later : Stretch ahead (position + 1) cs tokens) :
      Stretch ahead position (c :: cs) tokens
  | token {position : Nat} {l : Lexeme} {rest : List Char} {tokens : List Token}
      (proper : l.IsProper) (stops : ∀ c ∈ rest.head?.or ahead, ¬ l.Takes c)
      (later : Stretch ahead (position + l.spelling.length) rest tokens) :
      Stretch ahead position (l.spelling ++ rest) (⟨l, position⟩ :: tokens)

theorem head?_append_or (front back : List Char) (ahead : Option Char) :
    (front ++ back).head?.or ahead = front.head?.or (back.head?.or ahead) := by
  rw [List.head?_append, Option.or_assoc]

theorem Stretch.append (first : Stretch (back.head?.or ahead) position front body)
    (last : Stretch ahead (position + front.length) back later) :
    Stretch ahead position (front ++ back) (body ++ later) := by
  induction first with
  | finish position => exact last
  | @blank position c cs tokens space _ ih =>
    refine .blank space (ih ?_)
    rwa [List.length_cons, Nat.add_comm cs.length, ← Nat.add_assoc] at last
  | @token position l rest tokens proper stops _ ih =>
    rw [List.append_assoc, List.cons_append]
    refine .token proper ?_ (ih ?_)
    · rwa [head?_append_or]
    · rwa [List.length_append, ← Nat.add_assoc] at last

/-- Another character may follow if no token goes on with it that did not go on with the first. -/
theorem Stretch.before (h : Stretch ahead position cs tokens)
    (stops : ∀ l : Lexeme, (∀ c ∈ ahead, ¬ l.Takes c) → ∀ c ∈ ahead', ¬ l.Takes c) :
    Stretch ahead' position cs tokens := by
  induction h with
  | finish position => exact .finish position
  | blank space _ ih => exact .blank space ih
  | @token position l rest tokens proper stop _ ih =>
    refine .token proper ?_ ih
    cases rest with
    | nil => exact stops l stop
    | cons c rest => exact stop

/-- Nothing need follow. -/
theorem Stretch.alone (h : Stretch ahead position cs tokens) : Stretch none position cs tokens :=
  h.before fun _ _ _ none => by cases none

/-! ## Reading -/

/-- Reading one token, or failing to, is the next step of reading a text. -/
theorem scan_cons (space : isBlank c = false) :
    scan position (c :: cs) =
      match next position c cs with
      | .error e => .error e
      | .ok (token, rest) =>
        (scan (position + token.spelling.length) rest).map (token :: ·) := by
  rw [scan, if_neg (by simp [space])]
  split <;> next found => simp only [found]

/-- After a stretch the rest of the text is read. -/
theorem scan_append (h : Stretch cs.head? position front body) :
    scan position (front ++ cs) = (scan (position + front.length) cs).map (body ++ ·) := by
  induction h with
  | finish position =>
    rw [List.nil_append, List.length_nil, Nat.add_zero]
    cases scan position cs <;> rfl
  | @blank position c front tokens space _ ih =>
    rw [List.cons_append, scan, if_pos space, ih, List.length_cons, Nat.add_comm front.length,
      ← Nat.add_assoc]
  | @token position l rest tokens proper stops _ ih =>
    rw [List.append_assoc]
    rw [← List.head?_append] at stops
    obtain ⟨c, later, written, space, found⟩ := next_of_proper proper stops
    rw [written, scan_cons space, found, List.length_append, ← Nat.add_assoc]
    simp only [ih]
    cases scan (position + l.spelling.length + rest.length) cs <;> rfl

/-- A text that is one stretch is read as its tokens. -/
theorem scan_of_stretch (h : Stretch none position cs body) :
    scan position cs = .ok (body ++ [ending (position + cs.length)]) := by
  have whole : scan position (cs ++ []) = _ := scan_append h
  rw [List.append_nil, scan] at whole
  exact whole

/-- What is read is a stretch with an end of the input behind it. -/
theorem scan_eq_ok_iff_stretch :
    scan position cs = .ok tokens ↔
      ∃ body, tokens = body ++ [ending (position + cs.length)] ∧ Stretch none position cs body := by
  constructor
  · intro h
    have layout := layout_of_scan h
    clear h
    induction layout with
    | finish position => exact ⟨[], rfl, .finish position⟩
    | @blank position c cs tokens space _ ih =>
      obtain ⟨body, rfl, stretch⟩ := ih
      refine ⟨body, ?_, .blank space stretch⟩
      rw [List.length_cons, Nat.add_comm cs.length, ← Nat.add_assoc]
    | @token position l rest tokens proper stops _ ih =>
      obtain ⟨body, rfl, stretch⟩ := ih
      refine ⟨⟨l, position⟩ :: body, ?_, .token proper (by rwa [Option.or_none]) stretch⟩
      rw [List.length_append, ← Nat.add_assoc, List.cons_append]
  · rintro ⟨body, rfl, stretch⟩
    exact scan_of_stretch stretch

end ColumnStore.Token
