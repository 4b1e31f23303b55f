import ErrorCatalog.Number.Total
import ErrorCatalog.Proofs.Source.Lines

/-!
# `ErrorCatalog/Proofs/Source/Spacing.lean` — line ends and empty lines do not matter

`Lines.lean` says which lines a text has. Here is what the rows of a text do *not* depend on.

* `uniform` writes lines with one terminator throughout, and the last line with or without it. The
  rows are those of the lines in all six cases (`rows_uniform`). The case to look at is a last line
  that is empty and has no terminator: it is no line of the text at all, and it makes no row either
  way.
* `spaced` puts empty lines between lines. The rows stay, but each carries a new number
  (`rowsFrom_spaced`): a row is numbered by its line, so it moves by the number of empty lines in
  front of it, and by nothing else.
-/

set_option autoImplicit false

namespace ErrorCatalog

/-! ## 1. One terminator throughout -/

/-- Lines with the same terminator. The last has it only if `closed` says so. -/
def uniform (ending : LineEnd) (closed : Bool) : List Text → Text
  | [] => []
  | [line] => line ++ if closed then ending.text else []
  | line :: next :: rest => line ++ (ending.text ++ uniform ending closed (next :: rest))

/-- What follows a lone carriage return in such a text does not start with a line feed: the line there
has no terminator in it, and if it is empty, its terminator is a carriage return again. -/
theorem head?_uniform_ne (closed : Bool) :
    ∀ {lines : List Text}, (∀ line ∈ lines, line.Unbroken) →
      (uniform .carriageReturn closed lines).head? ≠ some '\n' := by
  intro lines hlines
  cases lines with
  | nil => simp [uniform]
  | cons line rest =>
    have hline : line.Unbroken := hlines line List.mem_cons_self
    cases line with
    | nil => cases rest <;> cases closed <;> simp [uniform, LineEnd.text]
    | cons c t =>
      have hc : c ≠ '\n' := (Text.unbroken_cons.mp hline).1.1
      cases rest <;> simp [uniform, hc]

theorem rowsFrom_physicalLines_uniform (ending : LineEnd) (closed : Bool) (lines : List Text) :
    ∀ n, (∀ line ∈ lines, line.Unbroken) →
      rowsFrom n (physicalLines (uniform ending closed lines)) = rowsFrom n lines := by
  induction lines with
  | nil => intro n _; rfl
  | cons line rest ih =>
    intro n hlines
    have hline : line.Unbroken := hlines line List.mem_cons_self
    have hrest : ∀ l ∈ rest, l.Unbroken := fun l hl => hlines l (List.mem_cons_of_mem _ hl)
    cases rest with
    | nil =>
      cases closed with
      | true =>
        have hread : physicalLines (line ++ (ending.text ++ [])) = [line] :=
          physicalLines_append ending (by simp) hline
        rw [List.append_nil] at hread
        rw [uniform, if_pos rfl, hread]
      | false =>
        -- Without its terminator an empty line is not there, and it would have been skipped.
        rw [uniform, if_neg Bool.false_ne_true, List.append_nil, physicalLines_of_unbroken hline]
        unfold lastLine
        split
        · rename_i hnil
          rw [hnil]
          rfl
        · rfl
    | cons next rest =>
      have happart : ending = .carriageReturn →
          (uniform ending closed (next :: rest)).head? ≠ some '\n' := by
        rintro rfl
        exact head?_uniform_ne closed hrest
      rw [uniform, physicalLines_append ending happart hline]
      cases line with
      | nil => exact ih (n + 1) hrest
      | cons c t => exact congrArg (_ :: ·) (ih (n + 1) hrest)

/-- **The rows of lines do not depend on how they are ended.** -/
theorem Source.rows_uniform (name : Text) (ending : LineEnd) (closed : Bool) {lines : List Text}
    (h : ∀ line ∈ lines, line.Unbroken) :
    (Source.ofText name (uniform ending closed lines)).rows = rowsFrom 1 lines :=
  rowsFrom_physicalLines_uniform ending closed lines 1 h

/-! ## 2. Empty lines -/

/-- Lines with empty lines between them: `gaps i` in front of the line at position `i`, and as many as
the next number says after the last. -/
def spaced : (Nat → Nat) → List Text → List Text
  | gaps, [] => List.replicate (gaps 0) []
  | gaps, line :: rest => List.replicate (gaps 0) [] ++ line :: spaced (fun i => gaps (i + 1)) rest

/-- The number of the line that had the number `n`: it moves by the empty lines in front of it. -/
def shifted (gaps : Nat → Nat) (n : Nat) : Nat := n + total gaps (List.range n)

def Row.renumbered (f : Nat → Nat) (row : Row) : Row := { row with line := f row.line }

theorem unbroken_of_mem_spaced {lines : List Text} (h : ∀ line ∈ lines, line.Unbroken) :
    ∀ gaps, ∀ line ∈ spaced gaps lines, line.Unbroken := by
  induction lines with
  | nil =>
    intro gaps line hline
    rw [List.eq_of_mem_replicate hline]
    exact Text.unbroken_nil
  | cons first rest ih =>
    intro gaps line hline
    rcases List.mem_append.mp hline with hline | hline
    · rw [List.eq_of_mem_replicate hline]
      exact Text.unbroken_nil
    · rcases List.mem_cons.mp hline with rfl | hline
      · exact h line List.mem_cons_self
      · exact ih (fun l hl => h l (List.mem_cons_of_mem _ hl)) _ line hline

/-- Empty lines are skipped but counted. -/
theorem rowsFrom_replicate_append (count : Nat) (lines : List Text) :
    ∀ n, rowsFrom n (List.replicate count [] ++ lines) = rowsFrom (n + count) lines := by
  induction count with
  | zero => intro n; rfl
  | succ count ih =>
    intro n
    rw [List.replicate_succ, List.cons_append, rowsFrom, ih, Nat.add_right_comm, Nat.add_assoc]

theorem total_range_succ (measure : Nat → Nat) (n : Nat) :
    total measure (List.range (n + 1)) =
      measure 0 + total (fun i => measure (i + 1)) (List.range n) := by
  rw [List.range_succ_eq_map, total_cons, total_map]

/-- **Empty lines change numbers only.** The induction is on the lines; what carries it is that `f` is
known on the numbers of the lines that are left, whatever number the first of them had and has. -/
theorem rowsFrom_spaced_of (lines : List Text) :
    ∀ (gaps f : Nat → Nat) (n m : Nat),
      (∀ i < lines.length, f (n + i) = m + i + total gaps (List.range (i + 1))) →
        rowsFrom m (spaced gaps lines) = (rowsFrom n lines).map (Row.renumbered f) := by
  induction lines with
  | nil =>
    intro gaps f n m _
    have h := rowsFrom_replicate_append (gaps 0) [] m
    rw [List.append_nil] at h
    rw [spaced, h]
    rfl
  | cons line rest ih =>
    intro gaps f n m hf
    have hfirst : f n = m + gaps 0 := by simpa using hf 0 (by simp)
    have hrest : rowsFrom (m + gaps 0 + 1) (spaced (fun i => gaps (i + 1)) rest) =
        (rowsFrom (n + 1) rest).map (Row.renumbered f) := by
      apply ih
      intro i hi
      have hnext := hf (i + 1) (by simpa using hi)
      rw [total_range_succ] at hnext
      rw [Nat.add_assoc n, Nat.add_comm 1 i, hnext]
      omega
    rw [spaced, rowsFrom_replicate_append]
    cases line with
    | nil => exact hrest
    | cons c t =>
      rw [rowsFrom, rowsFrom, List.map_cons, hrest, Row.renumbered]
      · rw [hfirst]
      all_goals simp

theorem rowsFrom_spaced (gaps : Nat → Nat) (lines : List Text) :
    rowsFrom 1 (spaced gaps lines) = (rowsFrom 1 lines).map (Row.renumbered (shifted gaps)) := by
  apply rowsFrom_spaced_of
  intro i _
  rw [shifted, Nat.add_comm 1 i]

end ErrorCatalog
