import ColumnStore.Text.Case
import ColumnStore.Validity

/-!
# Folds of valid names

A character that changes under the lower case is neither blank nor a dot, and neither is anything it
changes to. So the fold of a name tells whether the name is valid, and of two spellings of a name
both are valid or neither is.
-/

namespace ColumnStore.Text

/-- A character is left as it is, or moved by a run that holds it. -/
theorem mapRuns_cases (runs : List CaseRun) (n : Nat) :
    mapRuns runs n = n ∨ ∃ run ∈ runs, run.first ≤ n ∧ n ≤ run.last ∧
      mapRuns runs n = run.image + (n - run.first) := by
  induction runs with
  | nil => exact .inl rfl
  | cons run rest ih =>
    rw [mapRuns]
    split
    · exact .inl rfl
    · next above =>
      split
      · next held =>
        have last : n ≤ run.last := by simp_all
        exact .inr ⟨run, by simp, by omega, last, rfl⟩
      · rcases ih with kept | ⟨other, member, ends⟩
        · exact .inl kept
        · exact .inr ⟨other, List.mem_cons_of_mem _ member, ends⟩

/-- The blank characters and the dot. -/
def blankOrDotSpans : Spans := (0x2E, 0x2E) :: blankSpans

/-- Neither the runs nor their images hold a blank or a dot, and all images are code points. -/
theorem lowerRuns_apart :
    (∀ run ∈ lowerRuns, ∀ span ∈ blankOrDotSpans,
      (run.last < span.1 ∨ span.2 < run.first) ∧
        (run.image + (run.last - run.first) < span.1 ∨ span.2 < run.image)) ∧
    ∀ run ∈ lowerRuns, run.image + (run.last - run.first) < 0xD800 ∨
      0xDFFF < run.image ∧ run.image + (run.last - run.first) < 0x110000 := by
  decide +kernel

theorem toNat_ofNat {n : Nat} (valid : n.isValidChar) : (Char.ofNat n).toNat = n := by
  rw [Char.ofNat, dif_pos valid]
  rfl

/-- Neither blank nor a dot. -/
def IsPlain (c : Char) : Prop := isBlank c = false ∧ c ≠ '.'

theorem isPlain_of_apart {c : Char}
    (apart : ∀ span ∈ blankOrDotSpans, c.toNat < span.1 ∨ span.2 < c.toNat) : IsPlain c := by
  constructor
  · rw [isBlank, ← Bool.not_eq_true]
    intro blank
    obtain ⟨span, member, ends⟩ := Spans.exists_span blank
    have beside := apart span (List.mem_cons_of_mem _ member)
    omega
  · rintro rfl
    have beside := apart (0x2E, 0x2E) (by simp [blankOrDotSpans])
    have dot : '.'.toNat = 0x2E := rfl
    omega

/-- The lower case of a character is the character, or plain as the character is. -/
theorem lower_cases (c : Char) :
    lower c = [c] ∨ IsPlain c ∧ lower c ≠ [] ∧ ∀ l ∈ lower c, IsPlain l := by
  rw [lower]
  split
  · next dotted =>
    have here : c.toNat = 0x130 := by simpa using dotted
    refine .inr ⟨isPlain_of_apart ?_, by simp, ?_⟩
    · rw [here]
      decide
    · intro l member
      refine isPlain_of_apart ?_
      rcases List.mem_cons.mp member with rfl | member
      · decide
      · obtain rfl := List.mem_singleton.mp member
        decide
  · rcases mapRuns_cases lowerRuns c.toNat with kept | ⟨run, member, first, last, moved⟩
    · exact .inl (by rw [kept, Char.ofNat_toNat])
    · have valid : (mapRuns lowerRuns c.toNat).isValidChar := by
        have within := lowerRuns_apart.2 run member
        rw [moved, Nat.isValidChar]
        omega
      have image : (Char.ofNat (mapRuns lowerRuns c.toNat)).toNat = mapRuns lowerRuns c.toNat :=
        toNat_ofNat valid
      refine .inr ⟨isPlain_of_apart fun span listed => ?_, by simp, fun l written => ?_⟩
      · have beside := (lowerRuns_apart.1 run member span listed).1
        omega
      · obtain rfl := List.mem_singleton.mp written
        refine isPlain_of_apart fun span listed => ?_
        have beside := (lowerRuns_apart.1 run member span listed).2
        rw [image, moved]
        omega

theorem all_isBlank_lower (c : Char) : (lower c).all isBlank = isBlank c := by
  rcases lower_cases c with kept | ⟨plain, given, each⟩
  · simp [kept]
  · obtain ⟨l, rest, written⟩ := List.exists_cons_of_ne_nil given
    have first : isBlank l = false := (each l (by simp [written])).1
    simp [written, first, plain.1]

theorem dot_mem_lower_iff (c : Char) : '.' ∈ lower c ↔ '.' = c := by
  rcases lower_cases c with kept | ⟨plain, _, each⟩
  · simp [kept]
  · exact ⟨fun member => absurd rfl (each '.' member).2, fun same => absurd same.symm plain.2⟩

theorem isBlankText_eq_all_fold (s : String) : isBlankText s = (fold s).all isBlank := by
  rw [isBlankText, fold, List.all_flatMap]
  simp only [all_isBlank_lower]

theorem dot_mem_fold_iff (s : String) : '.' ∈ fold s ↔ '.' ∈ s.toList := by
  simp [fold, dot_mem_lower_iff]

/-- Spellings of one name are valid alike. -/
theorem isValidName_of_fold {name name' : String} (same : fold name = fold name') :
    isValidName name = isValidName name' := by
  have dotted : name.toList.contains '.' = name'.toList.contains '.' := by
    rw [Bool.eq_iff_iff, List.contains_iff_mem, List.contains_iff_mem, ← dot_mem_fold_iff,
      ← dot_mem_fold_iff, same]
  rw [isValidName, isValidName, isBlankText_eq_all_fold, isBlankText_eq_all_fold, same, dotted]

end ColumnStore.Text
