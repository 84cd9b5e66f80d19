import ColumnStore.Proofs.Token.Layout

/-!
# Reading finds the only cover

The tokens of a text are determined by their spans. A layout goes from left to right and a cover
speaks of all spans at once; the two agree, so a list of tokens is what a text is read as exactly
when their spans cover the text in order, up to white space, and none of them can be longer.
-/

namespace ColumnStore.Token

open Text

variable {text : List Char} {start finish : Nat} {t : Token} {tokens : List Token}

/-! ## From a layout to its cover -/

theorem cover_nil (text : List Char) : Cover text text.length [] where
  proper := by simp
  inside := by simp
  ordered := .nil
  spelled := by simp
  maximal := by simp
  blank := by
    intro i c beyond present
    obtain ⟨within, _⟩ := List.getElem?_eq_some_iff.mp present
    omega

/-- White space in front leaves the spans. -/
theorem Cover.space (h : Cover text (start + 1) tokens)
    (space : ∀ c, text[start]? = some c → isBlank c = true) : Cover text start tokens where
  proper := h.proper
  inside := by
    intro t member
    have := h.inside t member
    omega
  ordered := h.ordered
  spelled := h.spelled
  maximal := h.maximal
  blank := by
    intro i c ahead present outside
    by_cases here : i = start
    · exact space c (here ▸ present)
    · exact h.blank i c (by omega) present outside

/-- A token in front adds its span. -/
theorem Cover.cons (t : Token) (h : Cover text t.stop tokens) (proper : t.IsProper)
    (spelled : (text.drop t.position).take t.spelling.length = t.spelling)
    (maximal : ∀ c, text[t.stop]? = some c → ¬ t.Takes c) :
    Cover text t.position (t :: tokens) where
  proper := List.forall_mem_cons.mpr ⟨proper, h.proper⟩
  inside := by
    refine List.forall_mem_cons.mpr ⟨Nat.le_refl _, fun later member => ?_⟩
    have := h.inside later member
    simp only [stop] at this
    omega
  ordered := List.pairwise_cons.mpr ⟨h.inside, h.ordered⟩
  spelled := List.forall_mem_cons.mpr ⟨spelled, h.spelled⟩
  maximal := List.forall_mem_cons.mpr ⟨maximal, h.maximal⟩
  blank := by
    intro i c ahead present outside
    obtain ⟨notHere, notLater⟩ := List.forall_mem_cons.mp outside
    exact h.blank i c (by omega) present notLater

theorem cover_of_layout {position : Nat} {cs : List Char} (h : Layout position cs tokens)
    (here : text.drop position = cs) (whole : position + cs.length = text.length) :
    ∃ body, tokens = body ++ [ending text.length] ∧ Cover text position body := by
  induction h with
  | finish position =>
    obtain rfl : position = text.length := whole
    exact ⟨[], rfl, cover_nil text⟩
  | @blank position c cs tokens space _ ih =>
    have behind : text.drop (position + 1) = cs := by
      rw [← List.tail_drop, here]
      rfl
    obtain ⟨body, rfl, cover⟩ := ih behind (by simp only [List.length_cons] at whole; omega)
    refine ⟨body, rfl, cover.space fun d present => ?_⟩
    rw [← List.head?_drop, here] at present
    cases present
    exact space
  | @token position l rest tokens proper stops _ ih =>
    have behind : text.drop (position + l.spelling.length) = rest := by
      rw [← List.drop_drop, here, List.drop_left]
    obtain ⟨body, rfl, cover⟩ :=
      ih behind (by simp only [List.length_append] at whole; omega)
    refine ⟨⟨l, position⟩ :: body, rfl, cover.cons ⟨l, position⟩ proper ?_ fun c present => ?_⟩
    · simp only [here, List.take_left]
    · rw [← List.head?_drop, stop, behind] at present
      exact stops c present

/-! ## From a cover to its layout -/

/-- White space up to a position can be laid out in front of what begins there. -/
theorem layout_of_gap (ahead : start ≤ finish) (within : finish ≤ text.length)
    (gap : ∀ i c, start ≤ i → i < finish → text[i]? = some c → isBlank c = true)
    (h : Layout finish (text.drop finish) tokens) : Layout start (text.drop start) tokens := by
  obtain ⟨count, rfl⟩ := Nat.exists_eq_add_of_le ahead
  induction count generalizing start with
  | zero => exact h
  | succ count ih =>
    have present : start < text.length := by omega
    rw [List.drop_eq_getElem_cons present]
    refine .blank (gap start _ (Nat.le_refl _) (by omega) (List.getElem?_eq_getElem present)) ?_
    have next : start + (count + 1) = start + 1 + count := by omega
    rw [next] at within gap h
    exact ih (by omega) within (fun i c low high => gap i c (by omega) high) h

/-- The span of a proper token is not empty and ends inside the text. -/
theorem Cover.bounds (h : Cover text start tokens) (member : t ∈ tokens) :
    t.position < t.stop ∧ t.stop ≤ text.length := by
  have some := List.length_pos_of_ne_nil (spelling_ne_nil (h.proper t member))
  have size := congrArg List.length (h.spelled t member)
  rw [List.length_take, List.length_drop] at size
  rw [stop]
  omega

theorem Cover.tail (h : Cover text start (t :: tokens)) : Cover text t.stop tokens where
  proper := fun later member => h.proper later (List.mem_cons_of_mem _ member)
  inside := (List.pairwise_cons.mp h.ordered).1
  ordered := (List.pairwise_cons.mp h.ordered).2
  spelled := fun later member => h.spelled later (List.mem_cons_of_mem _ member)
  maximal := fun later member => h.maximal later (List.mem_cons_of_mem _ member)
  blank := by
    intro i c ahead present outside
    have begun := h.inside t List.mem_cons_self
    have size := (h.bounds List.mem_cons_self).1
    refine h.blank i c (by omega) present (List.forall_mem_cons.mpr ⟨?_, outside⟩)
    omega

theorem layout_of_cover (h : Cover text start tokens) (within : start ≤ text.length) :
    Layout start (text.drop start) (tokens ++ [ending text.length]) := by
  induction tokens generalizing start with
  | nil =>
    refine layout_of_gap within (Nat.le_refl _) (fun i c low _ present => ?_) ?_
    · exact h.blank i c low present (by simp)
    · rw [List.drop_length]
      exact .finish text.length
  | cons t tokens ih =>
    obtain ⟨size, inside⟩ := h.bounds List.mem_cons_self
    have later := (List.pairwise_cons.mp h.ordered).1
    have front : text.drop t.position = t.spelling ++ text.drop t.stop := by
      rw [stop, ← List.drop_drop]
      exact (h.spelled t List.mem_cons_self ▸ List.take_append_drop _ _).symm
    refine layout_of_gap (h.inside t List.mem_cons_self) (by omega) (fun i c low high present => ?_)
      (front ▸ .token (h.proper t List.mem_cons_self) (fun c next => ?_) (ih h.tail inside))
    · refine h.blank i c low present (List.forall_mem_cons.mpr ⟨by omega, fun other member => ?_⟩)
      have := later other member
      omega
    · rw [List.head?_drop] at next
      exact h.maximal t List.mem_cons_self c next

/-- A text is read as the tokens whose spans cover it and the end of the input behind them. -/
theorem ofText_eq_ok_iff_cover (text : String) (tokens : List Token) :
    ofText text = .ok tokens ↔
      ∃ body, tokens = body ++ [ending text.length] ∧ Cover text.toList 0 body := by
  have size : text.length = text.toList.length := String.length_toList.symm
  rw [ofText, scan_eq_ok_iff, size]
  constructor
  · intro layout
    exact cover_of_layout layout rfl (Nat.zero_add _)
  · rintro ⟨body, rfl, cover⟩
    exact layout_of_cover cover (Nat.zero_le _)

end ColumnStore.Token
