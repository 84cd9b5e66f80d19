import Mathlib.Data.List.TakeWhile
import ColumnStore.Shell.Session
import ColumnStore.Proofs.Catalog.WellFormed

/-!
# Sessions

A session is the fold of its lines: the catalog goes from one turn to the next, and nothing else
does. More input can therefore only add turns in place of the end of the input, and a line that
leaves the catalog as it was can be taken out without a change to the turns beside its own.
-/

namespace ColumnStore.Shell

variable {options : Options} {c : Catalog} {doomed : Nat → Bool}

/-! ## The fold -/

theorem statement?_of_ends {line : String} (ending : ends (some line) = true) :
    (Text.trim line.toList).isEmpty = false := by
  cases trimmed : Text.trim line.toList with
  | nil => simp [ends, trimmed, isQuit] at ending
  | cons first rest => rfl

theorem respond?_eq (line : String) :
    respond? options c line =
      if ends (some line) then none else some ((turn options c line).tail, carry c line) := by
  by_cases ending : ends (some line) = true
  · rw [respond?, statement?_of_ends ending, if_pos ending]
    exact if_pos ending
  · rw [if_neg ending, respond?, turn, carry, statement?]
    cases (Text.trim line.toList).isEmpty with
    | true => rfl
    | false => exact if_neg ending

theorem converse_eq_folded (lines : List (Option String)) :
    converse options c lines = folded options c lines := by
  induction lines generalizing c with
  | nil => rfl
  | cons line rest ih =>
    match line with
    | none => rfl
    | some line =>
      by_cases ending : ends (some line) = true
      · simp [converse, respond?_eq, folded, body, endingOf, ending, turns]
      · simp [converse, respond?_eq, folded, body, endingOf, ending, turns, ih, turn]

/-! ## More input -/

theorem body_append (xs ys : List (Option String)) :
    body (xs ++ ys) = if xs.any ends then body xs else body xs ++ body ys := by
  induction xs with
  | nil => rfl
  | cons line rest ih =>
    match line with
    | none => simp [body, ends]
    | some line =>
      simp only [List.cons_append, body, List.any_cons, ih]
      by_cases ending : ends (some line) = true
      · simp [ending]
      · by_cases later : rest.any ends = true <;> simp [ending, later]

theorem turns_append (xs ys : List String) :
    turns options c (xs ++ ys) = turns options c xs ++ turns options (xs.foldl carry c) ys := by
  induction xs generalizing c with
  | nil => rfl
  | cons line rest ih => simp only [List.cons_append, turns, List.foldl_cons, ih]

theorem getElem?_turns (lines : List String) (i : Nat) :
    (turns options c lines)[i]? =
      lines[i]?.map (turn options ((lines.take i).foldl carry c)) := by
  induction lines generalizing c i with
  | nil => rfl
  | cons line rest ih =>
    cases i with
    | zero => rfl
    | succ i => simp [turns, ih]

/-- Lines after the one that ends the session are not read. -/
theorem folded_append_of_ends {xs : List (Option String)} (ended : xs.any ends = true)
    (ys : List (Option String)) : folded options c (xs ++ ys) = folded options c xs := by
  obtain ⟨line, found⟩ := Option.isSome_iff_exists.mp (List.find?_isSome.trans List.any_eq_true.symm
    |>.mpr ended)
  simp only [folded, body_append, if_pos ended, endingOf, List.find?_append, found, Option.some_or]

/-- The prompt at the end of the input is the prompt of the next turn when there is one. -/
theorem prompt_prefix_turns (lines : List String) :
    [prompt c] <+: (turns options c lines).flatten ++ [prompt (lines.foldl carry c)] := by
  cases lines with
  | nil => exact List.prefix_rfl
  | cons line rest => exact List.cons_prefix_cons.mpr ⟨rfl, List.nil_prefix⟩

theorem folded_prefix (xs ys : List (Option String)) :
    (folded options c xs).events <+: (folded options c (xs ++ ys)).events := by
  by_cases ended : xs.any ends = true
  · simp [folded_append_of_ends ended]
  · simp only [folded, body_append, if_neg ended, turns_append, List.flatten_append,
      List.append_assoc, List.foldl_append]
    exact (List.prefix_append_right_inj _).mpr (prompt_prefix_turns _)

/-- A byte other than the newline joins the line after it. -/
theorem splitLines_cons {byte : UInt8} {rest line : List UInt8} {lines : List (List UInt8)}
    (other : byte ≠ 10) (cut : splitLines rest = line :: lines) :
    splitLines (byte :: rest) = (byte :: line) :: lines := by
  rw [splitLines, if_neg other, cut]

theorem splitLines_ne_nil {x : List UInt8} (filled : x ≠ []) : splitLines x ≠ [] := by
  cases x with
  | nil => contradiction
  | cons byte rest =>
    rw [splitLines]
    split
    · exact List.cons_ne_nil _ _
    · split <;> exact List.cons_ne_nil _ _

/-- Input that ends where a line ends is cut into the same lines whatever follows. -/
theorem splitLines_append {x : List UInt8} (whole : x = [] ∨ x.getLast? = some 10)
    (y : List UInt8) : splitLines (x ++ y) = splitLines x ++ splitLines y := by
  induction x with
  | nil => rfl
  | cons byte rest ih =>
    have restWhole : rest ≠ [] → rest.getLast? = some 10 := by
      intro filled
      simpa [List.getLast?_cons_of_ne_nil filled] using whole
    by_cases newline : byte = 10
    · have same := ih ((eq_or_ne rest []).imp id restWhole)
      simp only [List.cons_append, splitLines, if_pos newline, same]
    · have filled : rest ≠ [] := by
        rintro rfl
        exact newline (by simpa using whole)
      obtain ⟨line, lines, cut⟩ := List.exists_cons_of_ne_nil (splitLines_ne_nil filled)
      have longer : splitLines (rest ++ y) = line :: (lines ++ splitLines y) := by
        rw [ih (.inr (restWhole filled)), cut]
        rfl
      rw [List.cons_append, splitLines_cons newline longer, splitLines_cons newline cut]
      rfl

/-- More events print more text, whatever the times are. -/
theorem render_prefix {t t' : Transcript} (events : t.events <+: t'.events) (time : String) :
    (t.render time).toList <+: (t'.render time).toList := by
  obtain ⟨later, same⟩ := events
  rw [Transcript.render, Transcript.render, ← same, List.map_append, String.toList_join,
    String.toList_join, List.flatMap_append]
  exact List.prefix_append _ _

/-! ## Fewer lines -/

theorem map_without {α β : Type} (f : α → β) (xs : List α) :
    (without doomed xs).map f = without doomed (xs.map f) := by
  induction xs generalizing doomed with
  | nil => rfl
  | cons a rest ih =>
    simp only [without, List.map_cons]
    split
    · exact ih
    · rw [List.map_cons, ih]

theorem without_of_spared {α : Type} {xs : List α} (spared : ∀ i, doomed i = false) :
    without doomed xs = xs := by
  induction xs generalizing doomed with
  | nil => rfl
  | cons a rest ih => simp [without, spared 0, ih fun i => spared (i + 1)]

/-- An idle line leaves the catalog as it was. -/
theorem carry_of_idle {line : String} (h : c.WellFormed) (idle : Idle c line) :
    carry c line = c := by
  rw [carry]
  cases found : statement? line with
  | none => rfl
  | some statement =>
    obtain ⟨e, refused⟩ := idle statement found
    exact (Catalog.settles_run h statement).refused e refused

theorem wellFormed_carry {line : String} (h : c.WellFormed) : (carry c line).WellFormed := by
  rw [carry]
  cases statement? line with
  | none => exact h
  | some statement => exact (Catalog.settles_run h statement).keeps h

/-- The turn of an idle line is a prompt alone, or a prompt, an error and a time. -/
theorem turn_of_idle {line : String} (idle : Idle c line) :
    turn options c line = [prompt c] ∨
      ∃ e, turn options c line = prompt c :: report (.error e) :: timing options := by
  rw [turn]
  cases found : statement? line with
  | none => exact .inl rfl
  | some statement =>
    obtain ⟨e, refused⟩ := idle statement found
    refine .inr ⟨e, ?_⟩
    simp only [refused]

theorem Removable.tail {line : String} {rest : List String}
    (removable : Removable c (line :: rest) doomed) :
    Removable (carry c line) rest fun i => doomed (i + 1) := by
  intro i taken
  obtain ⟨found, there, idle⟩ := removable (i + 1) taken
  exact ⟨found, by simpa using there, by simpa using idle⟩

theorem Removable.lt {lines : List String} (removable : Removable c lines doomed) {i : Nat}
    (taken : doomed i = true) : i < lines.length := by
  obtain ⟨_, there, _⟩ := removable i taken
  exact (List.getElem?_eq_some_iff.mp there).1

/-- Without idle lines the other turns are the same, and so is the catalog at the end. -/
theorem turns_without (options : Options) {lines : List String} (h : c.WellFormed)
    (removable : Removable c lines doomed) :
    turns options c (without doomed lines) = without doomed (turns options c lines) ∧
      (without doomed lines).foldl carry c = lines.foldl carry c := by
  induction lines generalizing c doomed with
  | nil => exact ⟨rfl, rfl⟩
  | cons line rest ih =>
    obtain ⟨sameTurns, sameCatalog⟩ := ih (wellFormed_carry h) removable.tail
    cases taken : doomed 0 with
    | true =>
      obtain ⟨found, there, idle⟩ := removable 0 taken
      obtain rfl : line = found := by simpa using there
      have still : carry c line = c := carry_of_idle h idle
      rw [still] at sameTurns sameCatalog
      simp only [without, taken, if_true, turns, List.foldl_cons, still]
      exact ⟨sameTurns, sameCatalog⟩
    | false =>
      simp only [without, taken, Bool.false_eq_true, if_false, turns, List.foldl_cons]
      exact ⟨congrArg _ sameTurns, sameCatalog⟩

/-- Taking lines out of the body leaves the end of the session as it is. -/
theorem body_without {lines : List (Option String)}
    (inside : ∀ i, doomed i = true → i < (body lines).length) :
    body (without doomed lines) = without doomed (body lines) ∧
      endingOf (without doomed lines) = endingOf lines := by
  induction lines generalizing doomed with
  | nil => exact ⟨rfl, rfl⟩
  | cons line rest ih =>
    by_cases ending : ends line = true
    · -- The body is empty here, so no line of the input is doomed and none is taken out.
      have nothing : body (line :: rest) = [] := by
        match line with
        | none => rfl
        | some line => simp [body, ending]
      have spared : ∀ i, doomed i = false := by
        intro i
        rw [Bool.eq_false_iff]
        intro taken
        have bound := inside i taken
        rw [nothing] at bound
        cases bound
      exact ⟨by rw [without_of_spared spared, without_of_spared spared],
        by rw [without_of_spared spared]⟩
    · obtain ⟨text, rfl⟩ : ∃ text, line = some text := by
        match line with
        | none => simp [ends] at ending
        | some text => exact ⟨text, rfl⟩
      have unfolded : body (some text :: rest) = text :: body rest := by simp [body, ending]
      have passed : endingOf (some text :: rest) = endingOf rest := by
        simp [endingOf, ending]
      have later : ∀ i, doomed (i + 1) = true → i < (body rest).length := by
        intro i taken
        simpa [unfolded] using inside (i + 1) taken
      obtain ⟨sameBody, sameEnding⟩ := ih later
      rw [unfolded, passed]
      cases taken : doomed 0 with
      | true =>
        simp only [without, taken, if_true]
        exact ⟨sameBody, sameEnding⟩
      | false =>
        simp only [without, taken, Bool.false_eq_true, if_false]
        refine ⟨?_, ?_⟩
        · simp [body, ending, sameBody]
        · simpa [endingOf, ending] using sameEnding

theorem folded_without {lines : List (Option String)} (h : c.WellFormed)
    (removable : Removable c (body lines) doomed) :
    folded options c (without doomed lines) =
      { events := (without doomed (turns options c (body lines))).flatten ++
          [prompt ((body lines).foldl carry c)]
        ending := endingOf lines } := by
  obtain ⟨sameBody, sameEnding⟩ := body_without fun _ => removable.lt
  obtain ⟨sameTurns, sameCatalog⟩ := turns_without options h removable
  rw [folded, sameBody, sameEnding, sameTurns, sameCatalog]

/-! ## Fewer bytes -/

/-- Lines as they stand in an input: each is ended by its only newline, which the last may lack. -/
inductive Raw : List (List UInt8) → Prop
  | nil : Raw []
  | last {line : List UInt8} : line ≠ [] → 10 ∉ line → Raw [line]
  | cons {line : List UInt8} {rest : List (List UInt8)} :
      10 ∉ line → Raw rest → Raw ((line ++ [10]) :: rest)

theorem raw_rawLines (x : List UInt8) : Raw (rawLines x) := by
  induction x with
  | nil => exact .nil
  | cons byte rest ih =>
    rw [rawLines]
    split
    next newline =>
      subst newline
      exact .cons List.not_mem_nil ih
    next other =>
      have apart : ∀ {line : List UInt8}, 10 ∉ line → 10 ∉ byte :: line := by
        intro line absent member
        rcases List.mem_cons.mp member with same | later
        · exact other same.symm
        · exact absent later
      generalize rawLines rest = lines at ih
      cases ih with
      | nil => exact .last (List.cons_ne_nil _ _) (apart List.not_mem_nil)
      | last _ absent => exact .last (List.cons_ne_nil _ _) (apart absent)
      | cons absent later => exact Raw.cons (apart absent) later

/-- The lines make up the input. -/
theorem flatten_rawLines (x : List UInt8) : (rawLines x).flatten = x := by
  induction x with
  | nil => rfl
  | cons byte rest ih =>
    rw [rawLines]
    split
    · simp [ih]
    · cases lines : rawLines rest with
      | nil => simpa [lines] using ih
      | cons line later => simpa [lines] using ih

theorem Raw.without {lines : List (List UInt8)} (raw : Raw lines) :
    Raw (Shell.without doomed lines) := by
  induction raw generalizing doomed with
  | nil => exact .nil
  | last filled absent =>
    rw [Shell.without]
    split
    · exact .nil
    · exact .last filled absent
  | cons absent _ ih =>
    rw [Shell.without]
    split
    · exact ih
    · exact .cons absent ih

theorem splitLines_of_newline {line : List UInt8} (absent : 10 ∉ line) (rest : List UInt8) :
    splitLines (line ++ 10 :: rest) = line :: splitLines rest := by
  induction line with
  | nil => rfl
  | cons byte line ih =>
    obtain ⟨other, absent⟩ := not_or.mp (mt List.mem_cons.mpr absent)
    rw [List.cons_append, splitLines_cons (Ne.symm other) (ih absent)]

theorem splitLines_of_last {line : List UInt8} (filled : line ≠ []) (absent : 10 ∉ line) :
    splitLines line = [line] := by
  induction line with
  | nil => contradiction
  | cons byte line ih =>
    obtain ⟨other, absent⟩ := not_or.mp (mt List.mem_cons.mpr absent)
    cases line with
    | nil => rw [splitLines, if_neg (Ne.symm other), splitLines]
    | cons next later => exact splitLines_cons (Ne.symm other) (ih (List.cons_ne_nil _ _) absent)

/-- Lines put together are cut again into the same lines. -/
theorem Raw.splitLines_flatten {lines : List (List UInt8)} (raw : Raw lines) :
    splitLines lines.flatten = lines.map (·.takeWhile (· ≠ 10)) := by
  have whole : ∀ {line : List UInt8}, 10 ∉ line → ∀ byte ∈ line, decide (byte ≠ 10) = true := by
    intro line absent byte member
    exact decide_eq_true (ne_of_mem_of_not_mem member absent)
  induction raw with
  | nil => rfl
  | last filled absent =>
    simp only [List.flatten_cons, List.flatten_nil, List.append_nil, List.map_cons, List.map_nil]
    rw [splitLines_of_last filled absent, List.takeWhile_eq_self_iff.mpr (whole absent)]
  | cons absent _ ih =>
    rw [List.flatten_cons, List.append_assoc, List.singleton_append, splitLines_of_newline absent,
      ih, List.map_cons, List.takeWhile_append_of_pos (whole absent)]
    simp

theorem splitLines_without (x : List UInt8) :
    splitLines (without doomed (rawLines x)).flatten = without doomed (splitLines x) := by
  rw [(raw_rawLines x).without.splitLines_flatten, map_without,
    ← (raw_rawLines x).splitLines_flatten, flatten_rawLines]

/-! ## Whole sessions -/

theorem session_eq {arguments : List String}
    (accepted : Options.ofArguments? arguments = some options) (x : List UInt8) :
    session arguments x =
      { events := greeting :: (folded options .empty ((splitLines x).map decode?)).events
        ending := (folded options .empty ((splitLines x).map decode?)).ending } := by
  simp only [session, accepted, converse_eq_folded]

/-- A session is a fold of its lines. More input only adds to what is printed, and nothing after
the end of the session counts. Idle lines can be taken out of the input, and exactly their turns
go, each a prompt alone or a prompt, an error and a time. -/
theorem session_folds_lines (arguments : List String) (options : Options)
    (accepted : Options.ofArguments? arguments = some options) (x : List UInt8) :
    let lines := (splitLines x).map decode?
    let each := turns options .empty (body lines)
    let last := prompt ((body lines).foldl carry .empty)
    session arguments x = ⟨greeting :: each.flatten ++ [last], endingOf lines⟩ ∧
    (x = [] ∨ x.getLast? = some 10 → ∀ y,
      (session arguments x).events <+: (session arguments (x ++ y)).events ∧
      (∀ time, ((session arguments x).render time).toList <+:
        ((session arguments (x ++ y)).render time).toList) ∧
      ((∃ line ∈ lines, ends line = true) →
        session arguments (x ++ y) = session arguments x)) ∧
    ∀ doomed, Removable .empty (body lines) doomed →
      session arguments (without doomed (rawLines x)).flatten =
        ⟨greeting :: (without doomed each).flatten ++ [last], endingOf lines⟩ ∧
      ∀ i, doomed i = true →
        let before := ((body lines).take i).foldl carry .empty
        each[i]? = some [prompt before] ∨
          ∃ e, each[i]? = some (prompt before :: report (.error e) :: timing options) := by
  intro lines each last
  refine ⟨session_eq accepted x, ?_, ?_⟩
  · intro whole y
    have longer : (splitLines (x ++ y)).map decode? = lines ++ (splitLines y).map decode? := by
      rw [splitLines_append whole, List.map_append]
    have grows : (session arguments x).events <+: (session arguments (x ++ y)).events := by
      rw [session_eq accepted, session_eq accepted, longer]
      exact List.cons_prefix_cons.mpr ⟨rfl, folded_prefix _ _⟩
    refine ⟨grows, render_prefix grows, ?_⟩
    intro ended
    rw [session_eq accepted, session_eq accepted, longer,
      folded_append_of_ends (List.any_eq_true.mpr ended)]
  · intro doomed removable
    refine ⟨?_, ?_⟩
    · rw [session_eq accepted, splitLines_without, map_without,
        folded_without Catalog.wellFormed_empty removable]
      rfl
    · intro i taken
      obtain ⟨line, there, idle⟩ := removable i taken
      simp only [each, getElem?_turns, there, Option.map_some, Option.some.injEq]
      exact turn_of_idle idle

/-- A refused statement and a blank line before the request to quit. -/
theorem session_folds_lines_refused :
    let x := "create database s;\nuse t;\n \nQuit\n".toUTF8.toList
    let lines := (splitLines x).map decode?
    let doomed : Nat → Bool := fun i => i == 1 || i == 2
    (Options.ofArguments? ["--timing"] = some ⟨true⟩ ∧ x.getLast? = some 10 ∧
      (∃ line ∈ lines, ends line = true) ∧ Removable .empty (body lines) doomed) ∧
    (∀ y, session ["--timing"] (x ++ y) = session ["--timing"] x) ∧
    session ["--timing"] (without doomed (rawLines x)).flatten =
      ⟨[greeting, .text "minirel> ", .text "OK\n", .elapsed, .text "minirel> "], .finished⟩ := by
  intro x lines doomed
  have accepted : Options.ofArguments? ["--timing"] = some ⟨true⟩ := by decide +kernel
  have whole : x.getLast? = some 10 := by decide +kernel
  have ended : ∃ line ∈ lines, ends line = true := ⟨some "Quit", by decide +kernel⟩
  have read : body lines = ["create database s;", "use t;", " "] := by decide +kernel
  have removable : Removable .empty (body lines) doomed := by
    intro i taken
    rw [read]
    obtain rfl | rfl : i = 1 ∨ i = 2 := by simpa [doomed] using taken
    · refine ⟨"use t;", rfl, ?_⟩
      intro statement found
      obtain rfl : "use t;" = statement :=
        Option.some.inj ((by decide +kernel : some "use t;" = statement? "use t;").trans found)
      exact ⟨.refused (.notFound .database "t"), by decide +kernel⟩
    · refine ⟨" ", rfl, ?_⟩
      intro statement found
      cases (by decide +kernel : none = statement? " ").trans found
  obtain ⟨-, more, fewer⟩ := session_folds_lines ["--timing"] ⟨true⟩ accepted x
  refine ⟨⟨accepted, whole, ended, removable⟩, fun y => (more (.inr whole) y).2.2 ended, ?_⟩
  exact (fewer doomed removable).1.trans (by decide +kernel)

end ColumnStore.Shell
