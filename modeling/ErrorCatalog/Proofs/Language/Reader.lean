import ErrorCatalog.Language

/-!
# `ErrorCatalog/Proofs/Language/Reader.lean` — reading a literal from its start

Whoever compiles the generated code reads a literal forward, one character after the other, and
remembers one thing on the way: whether there is a backslash in front that has not been used yet.
`ReaderState` is that memory. A quotation mark met with nothing in memory ends the literal; after a
backslash every character stands for itself, whatever it is.

The reader and the form of a character keep in step. However a value is written, after each of its
characters the memory is empty again (`readBody_escapedChar`), so neither a run of backslashes nor a
backslash at the end of a value can reach the quotation mark that closes the literal.

* `readBody_escapedChar` is one character, `readBody_body` a whole value, each with any text after it.
* `readBody_append` is the converse direction of the same thought: once a literal is closed, more text
  changes nothing. That is why no beginning of a literal can be a literal.

What the characters of a value mean to the language is not said here. A tab or a line feed would be
read as it stands.
-/

set_option autoImplicit false

namespace ErrorCatalog

/-! ## 1. The reader -/

/-- What is remembered between two characters of a literal: nothing, or a backslash that the next
character uses up. -/
inductive ReaderState where
  | plain
  | escaped
deriving DecidableEq

/-- The memory after a character that does not end the literal. -/
def ReaderState.next : ReaderState → Char → ReaderState
  | .plain, c => if c = '\\' then .escaped else .plain
  | .escaped, _ => .plain

/-- Reads up to the quotation mark that ends a literal, and leaves what follows it: the characters
of the value, each with what was remembered when it was met. `none` if the literal does not end. -/
def readBody : ReaderState → Text → Option (List (ReaderState × Char) × Text)
  | _, [] => none
  | state, c :: rest =>
    if state = .plain ∧ c = '"' then some ([], rest)
    else if state = .plain ∧ c = '\\' then readBody (state.next c) rest
    else (readBody (state.next c) rest).map fun (read, after) => ((state, c) :: read, after)

def readLiteral : Text → Option (List (ReaderState × Char) × Text)
  | '"' :: rest => readBody .plain rest
  | _ => none

/-- Once a literal is closed, more text changes nothing. -/
theorem readBody_append {t after : Text} {read : List (ReaderState × Char)} (more : Text) :
    ∀ {state : ReaderState}, readBody state t = some (read, after) →
      readBody state (t ++ more) = some (read, after ++ more) := by
  induction t generalizing read with
  | nil =>
    intro state h
    exact absurd h (by simp [readBody])
  | cons c rest ih =>
    intro state h
    rw [List.cons_append]
    unfold readBody at h ⊢
    split
    · rename_i hclose
      rw [if_pos hclose] at h
      cases h
      rfl
    · rename_i hopen
      rw [if_neg hopen] at h
      split
      · rename_i hbackslash
        rw [if_pos hbackslash] at h
        exact ih h
      · rename_i hchar
        rw [if_neg hchar] at h
        obtain ⟨⟨later, left⟩, hlater, heq⟩ := Option.map_eq_some_iff.mp h
        cases heq
        rw [ih hlater]
        rfl

theorem readLiteral_append {t after : Text} {read : List (ReaderState × Char)} (more : Text)
    (h : readLiteral t = some (read, after)) :
    readLiteral (t ++ more) = some (read, after ++ more) := by
  unfold readLiteral at h
  split at h
  · exact readBody_append more h
  · cases h

/-! ## 2. What is written -/

namespace Language

/-- Whether a character has a backslash in front of it inside a literal. -/
def Protects (l : Language) (c : Char) : Prop := c = '\\' ∨ c = '"' ∨ (c = '$' ∧ l = .kotlin)

instance (l : Language) (c : Char) : Decidable (l.Protects c) :=
  inferInstanceAs (Decidable (_ ∨ _ ∨ _ ∧ _))

/-- What a reader remembers when it meets the character itself. -/
def stateAt (l : Language) (c : Char) : ReaderState := if l.Protects c then .escaped else .plain

/-- The characters of a value as a reader meets them. -/
def marked (l : Language) (value : Text) : List (ReaderState × Char) :=
  value.map fun c => (l.stateAt c, c)

@[simp] theorem map_snd_marked (l : Language) (value : Text) :
    (l.marked value).map (·.2) = value := by
  simp [marked, Function.comp_def]

theorem not_mem_marked_of_protects {l : Language} {c : Char} (h : l.Protects c) (value : Text) :
    (.plain, c) ∉ l.marked value := by
  intro hmem
  obtain ⟨d, -, heq⟩ := List.mem_map.mp hmem
  obtain ⟨hstate, rfl⟩ := Prod.mk.inj heq
  rw [stateAt, if_pos h] at hstate
  cases hstate

end Language

variable (l : Language)

/-- **One character** of a value is read as itself, and leaves nothing in memory. -/
theorem readBody_escapedChar (c : Char) (rest : Text) :
    readBody .plain (l.escapedChar c ++ rest) =
      (readBody .plain rest).map fun (read, after) => ((l.stateAt c, c) :: read, after) := by
  have hform : l.escapedChar c = if l.Protects c then ['\\', c] else [c] := rfl
  rw [hform, Language.stateAt]
  by_cases h : l.Protects c
  · -- The backslash is not part of the value, and the character after it is, whatever it is.
    rw [if_pos h, if_pos h]
    simp [readBody, ReaderState.next]
  · have hbackslash : c ≠ '\\' := fun e => h (Or.inl e)
    have hquote : c ≠ '"' := fun e => h (Or.inr (Or.inl e))
    rw [if_neg h, if_neg h]
    simp [readBody, ReaderState.next, hbackslash, hquote]

theorem foldl_next_escapedChar (c : Char) :
    (l.escapedChar c).foldl ReaderState.next .plain = .plain := by
  unfold Language.escapedChar
  split
  · rfl
  · rename_i h
    have hbackslash : c ≠ '\\' := fun e => h (Or.inl e)
    simp [ReaderState.next, hbackslash]

/-- **A value** and the quotation mark that closes it are read as the value, whatever follows, by
induction on the value. -/
theorem readBody_body (value rest : Text) :
    readBody .plain (value.flatMap l.escapedChar ++ '"' :: rest) = some (l.marked value, rest) := by
  induction value with
  | nil => rfl
  | cons c value ih =>
    rw [List.flatMap_cons, List.append_assoc, readBody_escapedChar, ih]
    rfl

/-- After a value nothing is left in memory: no backslash waits for the closing quotation mark. -/
theorem foldl_next_body (value : Text) :
    (value.flatMap l.escapedChar).foldl ReaderState.next .plain = .plain := by
  induction value with
  | nil => rfl
  | cons c value ih => rw [List.flatMap_cons, List.foldl_append, foldl_next_escapedChar, ih]

theorem readLiteral_literal (value rest : Text) :
    readLiteral (l.literal value ++ rest) = some (l.marked value, rest) := by
  have hform : l.literal value ++ rest = '"' :: (value.flatMap l.escapedChar ++ '"' :: rest) := by
    simp [Language.literal]
  rw [hform]
  exact readBody_body l value rest

/-- No beginning of a literal is a literal. -/
theorem readLiteral_eq_none_of_prefix {value part : Text} (h : part <+: l.literal value)
    (hne : part ≠ l.literal value) : readLiteral part = none := by
  obtain ⟨missing, hmissing⟩ := h
  cases hread : readLiteral part with
  | none => rfl
  | some result =>
    obtain ⟨read, after⟩ := result
    -- What is missing would be left over by the whole literal, which leaves nothing.
    have hwhole := readLiteral_append missing hread
    rw [hmissing, ← List.append_nil (l.literal value), readLiteral_literal] at hwhole
    have hnothing : after ++ missing = [] := (congrArg Prod.snd (Option.some.inj hwhole)).symm
    obtain ⟨-, rfl⟩ := List.append_eq_nil_iff.mp hnothing
    exact absurd (by rw [← hmissing, List.append_nil]) hne

/-- Two literals with something after each are the same text only if they are the same. -/
theorem literal_append_inj {value other rest after : Text}
    (h : l.literal other ++ after = l.literal value ++ rest) : other = value ∧ after = rest := by
  have hread := readLiteral_literal l other after
  rw [h, readLiteral_literal] at hread
  obtain ⟨hmarked, hrest⟩ := Prod.mk.inj (Option.some.inj hread)
  refine ⟨?_, hrest.symm⟩
  rw [← l.map_snd_marked other, ← hmarked, l.map_snd_marked]

/-- **Every literal is closed and stands for its value.** Whatever the value is and whatever follows,
a reader that starts at the opening quotation mark stops exactly behind the closing one and has the
value; no backslash is left over, in Kotlin no dollar sign is met without one, and no earlier
quotation mark closes the literal. So a literal determines its value, and takes nothing of the text
after it. -/
theorem literal_closed (value rest : Text) :
    ∃ body read, l.literal value = '"' :: body ++ ['"'] ∧
      readLiteral (l.literal value ++ rest) = some (read, rest) ∧ read.map (·.2) = value ∧
      body.foldl ReaderState.next .plain = .plain ∧
      (l = .kotlin → (ReaderState.plain, '$') ∉ read) ∧
      (∀ part, part <+: l.literal value → part ≠ l.literal value → readLiteral part = none) ∧
      (∀ other, l.literal other = l.literal value → other = value) ∧
      ∀ other after, l.literal other ++ after = l.literal value ++ rest →
        other = value ∧ after = rest := by
  refine ⟨value.flatMap l.escapedChar, l.marked value, rfl, readLiteral_literal l value rest,
    l.map_snd_marked value, foldl_next_body l value, ?_,
    fun _ hpart hne => readLiteral_eq_none_of_prefix l hpart hne, ?_,
    fun _ _ h => literal_append_inj l h⟩
  · rintro rfl
    exact Language.not_mem_marked_of_protects (Or.inr (Or.inr ⟨rfl, rfl⟩)) value
  · intro other h
    have happend : l.literal other ++ rest = l.literal value ++ rest := by rw [h]
    exact (literal_append_inj l happend).1

/-- A value of backslashes and quotation marks, before a text that could continue it. -/
example : (readLiteral (Language.literal .java "\\\\\"\\".toList ++ "\", \"".toList)).map
    (fun p => (p.1.map (·.2), p.2)) = some ("\\\\\"\\".toList, "\", \"".toList) := by decide

end ErrorCatalog
