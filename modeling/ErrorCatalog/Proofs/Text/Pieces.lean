import ErrorCatalog.Text

/-!
# `ErrorCatalog/Proofs/Text/Pieces.lean` — what pieces are made of

A piece between separators has no separator in it and no character that the text has not; and no
other character of the text is missing from the pieces. Where a text is cut at a separator does not
matter: `pieces_append_cons` cuts at any one of them first. Joining texts adds the characters of what
they are joined by, and no other.
-/

set_option autoImplicit false

namespace ErrorCatalog

namespace Text

/-- A character of a piece is a character of the text, and no separator. -/
theorem of_mem_pieces {isSeparator : Char → Bool} {t piece : Text}
    (h : piece ∈ pieces isSeparator t) : ∀ c ∈ piece, c ∈ t ∧ isSeparator c = false := by
  induction t generalizing piece with
  | nil =>
    obtain rfl : piece = [] := by simpa [pieces] using h
    simp
  | cons d rest ih =>
    have hlater : ∀ piece ∈ pieces isSeparator rest, ∀ c ∈ piece,
        c ∈ d :: rest ∧ isSeparator c = false := fun piece h c hc =>
      ⟨List.mem_cons_of_mem _ (ih h c hc).1, (ih h c hc).2⟩
    rw [pieces] at h
    split at h
    · rcases List.mem_cons.mp h with rfl | h
      · simp
      · exact hlater piece h
    · rename_i hd
      cases hp : pieces isSeparator rest with
      | nil => exact absurd hp (pieces_ne_nil isSeparator rest)
      | cons first others =>
        rw [hp] at h hlater
        rcases List.mem_cons.mp h with rfl | h
        · intro c hc
          rcases List.mem_cons.mp hc with rfl | hc
          · exact ⟨List.mem_cons_self, by simpa using hd⟩
          · exact hlater first List.mem_cons_self c hc
        · exact hlater piece (List.mem_cons_of_mem _ h)

/-- A text without separators is one piece. -/
theorem pieces_of_forall_not {isSeparator : Char → Bool} {t : Text}
    (h : ∀ c ∈ t, isSeparator c = false) : pieces isSeparator t = [t] := by
  induction t with
  | nil => rfl
  | cons c rest ih =>
    have hc : isSeparator c = false := h c List.mem_cons_self
    have hrest := ih fun d hd => h d (List.mem_cons_of_mem _ hd)
    simp [pieces, hc, hrest]

/-- Cutting at one separator is cutting what stands before it and what stands after it. -/
theorem pieces_append_cons {isSeparator : Char → Bool} {c : Char} (hc : isSeparator c = true)
    (t u : Text) :
    pieces isSeparator (t ++ c :: u) = pieces isSeparator t ++ pieces isSeparator u := by
  induction t with
  | nil => simp [pieces, hc]
  | cons d rest ih =>
    rw [List.cons_append, pieces, pieces]
    by_cases hd : isSeparator d = true
    · rw [if_pos hd, if_pos hd, ih, List.cons_append]
    · rw [if_neg hd, if_neg hd, ih]
      cases hp : pieces isSeparator rest with
      | nil => exact absurd hp (pieces_ne_nil isSeparator rest)
      | cons first others => rfl

/-- No character is lost but the separators. -/
theorem exists_mem_pieces {isSeparator : Char → Bool} {c : Char} (hc : isSeparator c = false)
    {t : Text} (h : c ∈ t) : ∃ piece ∈ pieces isSeparator t, c ∈ piece := by
  induction t with
  | nil => exact absurd h List.not_mem_nil
  | cons d rest ih =>
    rw [pieces]
    split
    · rename_i hd
      have hne : c ≠ d := by
        rintro rfl
        rw [hc] at hd
        cases hd
      obtain ⟨piece, hpiece, hmem⟩ := ih ((List.mem_cons.mp h).resolve_left hne)
      exact ⟨piece, List.mem_cons_of_mem _ hpiece, hmem⟩
    · cases hp : pieces isSeparator rest with
      | nil => exact absurd hp (pieces_ne_nil isSeparator rest)
      | cons first others =>
        rcases List.mem_cons.mp h with rfl | hrest
        · exact ⟨c :: first, List.mem_cons_self, List.mem_cons_self⟩
        · rw [hp] at ih
          obtain ⟨piece, hpiece, hmem⟩ := ih hrest
          rcases List.mem_cons.mp hpiece with rfl | hpiece
          · exact ⟨d :: piece, List.mem_cons_self, List.mem_cons_of_mem _ hmem⟩
          · exact ⟨piece, List.mem_cons_of_mem _ hpiece, hmem⟩

/-- A character of a joined text is one of the separator or of a text. -/
theorem mem_joined {separator : Text} {c : Char} : ∀ {texts : List Text},
    c ∈ joined separator texts → c ∈ separator ∨ ∃ t ∈ texts, c ∈ t
  | [], h => absurd h List.not_mem_nil
  | [t], h => Or.inr ⟨t, List.mem_singleton_self t, h⟩
  | t :: u :: rest, h => by
    rw [joined_cons_cons] at h
    rcases List.mem_append.mp h with h | h
    · rcases List.mem_append.mp h with h | h
      · exact Or.inr ⟨t, List.mem_cons_self, h⟩
      · exact Or.inl h
    · rcases mem_joined h with h | ⟨v, hv, hc⟩
      · exact Or.inl h
      · exact Or.inr ⟨v, List.mem_cons_of_mem _ hv, hc⟩

end Text

end ErrorCatalog
