import ErrorCatalog.Language
import ErrorCatalog.Proofs.Text.FromEnd

/-!
# `ErrorCatalog/Proofs/Language/Literal.lean` — reading a literal from its end

Inside a literal every quotation mark has a backslash directly in front of it. The one that opens the
literal has not: what stands in front of a literal is `Neutral`, it does not end in a backslash. So
the opening quotation mark is the first, from the end, without a backslash (`toOpening_literal`), and
it does not matter how many backslashes the value has or where.

Going forward one has to count: a quotation mark closes a literal if the run of backslashes in front
of it is even. Going backward there is nothing to count.
-/

set_option autoImplicit false

namespace ErrorCatalog

/-! ## 1. What a literal stands for -/

/-- The text that the characters between the quotation marks stand for: a backslash is dropped, and
the character after it is kept, whatever it is. -/
def unescaped : Text → Text
  | [] => []
  | '\\' :: c :: rest => c :: unescaped rest
  | c :: rest => c :: unescaped rest

theorem unescaped_flatMap_escapedChar (l : Language) (value : Text) :
    unescaped (value.flatMap l.escapedChar) = value := by
  induction value with
  | nil => rfl
  | cons c rest ih =>
    rw [List.flatMap_cons, Language.escapedChar]
    split
    · exact congrArg (c :: ·) ih
    · rename_i hc
      have hbackslash : c ≠ '\\' := fun h => hc (Or.inl h)
      rw [List.singleton_append, unescaped, ih]
      exact fun _ _ h => absurd h hbackslash

/-! ## 2. Where a literal starts -/

/-- Whether a text leaves the character after it alone. -/
def Text.Neutral (t : Text) : Prop := t.getLast? ≠ some '\\'

instance (t : Text) : Decidable t.Neutral := inferInstanceAs (Decidable (_ ≠ _))

/-- Only the last of two texts matters, unless it is empty. -/
theorem Text.Neutral.append {t u : Text} (ht : u = [] → t.Neutral) (hu : u.Neutral) :
    (t ++ u).Neutral := by
  unfold Neutral at *
  rw [List.getLast?_append]
  cases hlast : u.getLast? with
  | none => simpa using ht (List.getLast?_eq_none_iff.mp hlast)
  | some c => simpa [hlast] using hu

/-- Given what stands before the closing quotation mark, last character first: the characters of the
literal, and what stands before the quotation mark that opens it. One with a backslash in front of it
opens nothing. -/
def toOpening : Text → Text → Option (Text × Text)
  | [], _ => none
  | c :: rest, body =>
    if c = '"' ∧ rest.head? ≠ some '\\' then some (body, rest) else toOpening rest (c :: body)

/-- **The quotation mark that opens a literal is found**, by induction from the last character of the
value. -/
theorem toOpening_literal (l : Language) (value : Text) {before : Text}
    (hbefore : before.head? ≠ some '\\') : ∀ body,
      toOpening ((value.flatMap l.escapedChar).reverse ++ '"' :: before) body =
        some (value.flatMap l.escapedChar ++ body, before) := by
  induction value using List.reverseRecOn with
  | nil =>
    intro body
    simp [toOpening, hbefore]
  | append_singleton value c ih =>
    intro body
    -- The last character is passed over, together with the backslash in front of it if it has one.
    have hstep : ∀ rest : Text, toOpening ((l.escapedChar c).reverse ++ rest) body =
        toOpening rest (l.escapedChar c ++ body) := by
      intro rest
      unfold Language.escapedChar
      split
      · simp [toOpening]
      · rename_i hc
        have hquote : c ≠ '"' := fun h => hc (Or.inr (Or.inl h))
        simp [toOpening, hquote]
    rw [List.flatMap_append, List.flatMap_singleton, List.reverse_append, List.append_assoc, hstep,
      ih, List.append_assoc]

/-! ## 3. The reader -/

namespace EndReader

/-- The value of a string literal. The language is not needed: what a backslash means is the same in
all of them. -/
def literal : EndReader Text := fun given =>
  match given.reverse with
  | '"' :: rest => (toOpening rest []).map fun (body, before) => (unescaped body, before.reverse)
  | _ => none

theorem run_literal (l : Language) (value : Text) {before : Text} (hbefore : before.Neutral) :
    literal.run (before ++ l.literal value) = some (value, before) := by
  have hreverse : (before ++ l.literal value).reverse =
      '"' :: ((value.flatMap l.escapedChar).reverse ++ '"' :: before.reverse) := by
    simp [Language.literal]
  have hneutral : before.reverse.head? ≠ some '\\' := by rwa [List.head?_reverse]
  have hopening := toOpening_literal l value hneutral []
  show literal (before ++ l.literal value) = some (value, before)
  simp [literal, hreverse, hopening, unescaped_flatMap_escapedChar]

end EndReader

end ErrorCatalog
