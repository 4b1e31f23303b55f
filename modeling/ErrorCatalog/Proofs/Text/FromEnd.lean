import Mathlib.Data.List.DropRight
import Mathlib.Data.List.Induction
import ErrorCatalog.Text.Blank

/-!
# `ErrorCatalog/Proofs/Text/FromEnd.lean` — reading a text from its end

Some texts can only be read from the end. A reader that goes forward has to know where a name stops,
and a name that may hold any punctuation says so nowhere; a reader that goes backward meets the end of
a name first, and only has to know where it starts.

An `EndReader` takes something off the end of a text and leaves what stands before it. Everything
that is said about one has the form `r.run (before ++ t) = some (a, before)`: `t` is read as `a`, no
more and no less, whatever the text is that `t` ends.

`itemsFrom` reads items one after the other up to a head that is known. How many there are is not
known; it is read off as well.
-/

set_option autoImplicit false

namespace ErrorCatalog

/-- Takes something off the end of a text. -/
abbrev EndReader (α : Type) := StateT Text Option α

namespace EndReader

/-! ## 1. One step -/

def known (t : Text) : EndReader Unit := fun given =>
  (given.dropSuffix? t).map fun before => ((), before)

theorem dropSuffix?_append (before t : Text) : (before ++ t).dropSuffix? t = some before :=
  List.dropSuffix?_eq_some_iff.mpr ⟨t, rfl, beq_self_eq_true t⟩

@[simp] theorem run_known (before t : Text) : (known t).run (before ++ t) = some ((), before) :=
  congrArg (Option.map _) (dropSuffix?_append before t)

/-- The characters back to the first blank. -/
def word : EndReader Text := fun given =>
  some (given.rtakeWhile (!isBlank ·), given.rdropWhile (!isBlank ·))

theorem run_word {before t : Text} (hbefore : ∃ c ∈ before.getLast?, isBlank c = true)
    (ht : ∀ c ∈ t, isBlank c = false) : word.run (before ++ t) = some (t, before) := by
  obtain ⟨blank, hlast, hblank⟩ := hbefore
  obtain ⟨front, rfl⟩ := List.getLast?_eq_some_iff.mp hlast
  have hword : ∀ c ∈ t.reverse, (!isBlank c) = true := by
    intro c hc
    simp [ht c (List.mem_reverse.mp hc)]
  have htake : (front ++ [blank] ++ t).rtakeWhile (!isBlank ·) = t := by
    rw [List.rtakeWhile, List.reverse_append, List.takeWhile_append_of_pos hword]
    simp [hblank]
  have hdrop : (front ++ [blank] ++ t).rdropWhile (!isBlank ·) = front ++ [blank] := by
    rw [List.rdropWhile, List.reverse_append, List.dropWhile_append_of_pos hword]
    simp [hblank]
  exact congrArg some (Prod.ext htake hdrop)

/-! ## 2. Items in a row -/

section Items

variable {α : Type} (item : Text → EndReader α) (front : α → Text) (separator head : Text)

/-- The texts of items in a row. The last item is closed by `closing`, every other by `separator`. -/
def closedItems (closing : Text) : List α → Text
  | [] => []
  | [a] => front a ++ closing
  | a :: b :: rest => front a ++ separator ++ closedItems closing (b :: rest)

theorem closedItems_concat (closing : Text) (items : List α) (a : α) :
    closedItems front separator closing (items ++ [a]) =
      closedItems front separator separator items ++ (front a ++ closing) := by
  induction items with
  | nil => simp [closedItems]
  | cons b rest ih =>
    cases rest with
    | nil => simp [closedItems]
    | cons c rest =>
      simp only [List.cons_append, closedItems] at ih ⊢
      rw [ih, ← List.append_assoc]

/-- The items back to `head`, in front of those that were read already. What closes the last item is
`closing`; what closes the others is `separator`. -/
def itemsFrom (closing given : Text) (later : List α) : Option (List α) :=
  if given = head then some later
  else
    match (item closing).run given with
    | none => none
    | some (a, before) =>
      if before.length < given.length then itemsFrom separator before (a :: later) else none
termination_by given.length

variable {item front separator head}

/-- Items that can be read one by one can be read in a row, by induction from the last item. -/
theorem itemsFrom_closedItems {items : List α}
    (hitem : ∀ a ∈ items, front a ≠ [] ∧ ∀ closing before,
      (item closing).run (before ++ (front a ++ closing)) = some (a, before)) :
    ∀ closing later, itemsFrom item separator head closing
      (head ++ closedItems front separator closing items) later = some (items ++ later) := by
  induction items using List.reverseRecOn with
  | nil =>
    intro closing later
    rw [itemsFrom]
    simp [closedItems]
  | append_singleton items a ih =>
    intro closing later
    obtain ⟨hfront, hread⟩ := hitem a (by simp)
    -- The last item is read, and what it leaves is shorter and ends in `separator`, as if the
    -- items before it were all there are.
    have hshorter : ∀ before : Text, before.length < (before ++ (front a ++ closing)).length := by
      intro before
      have := List.length_pos_iff.mpr hfront
      simp only [List.length_append]
      omega
    have hlonger : ∀ between : Text, head ++ between ++ (front a ++ closing) ≠ head := by
      intro between h
      have := hshorter (head ++ between)
      rw [h, List.length_append] at this
      omega
    rw [closedItems_concat, ← List.append_assoc, itemsFrom, if_neg (hlonger _), hread]
    simp only
    rw [if_pos (hshorter _), ih fun b hb => hitem b (List.mem_append_left _ hb)]
    simp

end Items

end EndReader
end ErrorCatalog
