/-!
# Spans of code points

A character class is listed as spans of code points in ascending order, both ends included.
Membership reads the list from the left and stops at the first span that begins above the
character. The tables of this folder follow version 17.0 of the Unicode Character Database.
-/

namespace ColumnStore.Text

abbrev Spans := List (Nat × Nat)

def Spans.contains : Spans → Nat → Bool
  | [], _ => false
  | (first, last) :: rest, n =>
    if n < first then false else if n ≤ last then true else Spans.contains rest n

/-- A member lies between the ends of one of the spans. -/
theorem Spans.exists_span {spans : Spans} {n : Nat} (h : spans.contains n = true) :
    ∃ span ∈ spans, span.1 ≤ n ∧ n ≤ span.2 := by
  induction spans with
  | nil => simp [Spans.contains] at h
  | cons span rest ih =>
    obtain ⟨first, last⟩ := span
    rw [Spans.contains] at h
    split at h
    · simp at h
    · split at h
      · exact ⟨(first, last), by simp, by simp; omega⟩
      · obtain ⟨span, member, ends⟩ := ih h
        exact ⟨span, by simp [member], ends⟩

end ColumnStore.Text
