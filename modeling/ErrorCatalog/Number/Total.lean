/-!
# `ErrorCatalog/Number/Total.lean` — adding up

Sizes, widths and counts are all totals of a number over a list. The definition is a structural
recursion, so a total over `a :: rest` unfolds by itself. Two laws are all that its uses need: counting
something else of the same items (`total_map`), and counting the same for each (`total_const`).
-/

set_option autoImplicit false

namespace ErrorCatalog

/-- The sum of a number over a list. -/
def total {α : Type} (measure : α → Nat) : List α → Nat
  | [] => 0
  | a :: rest => measure a + total measure rest

@[simp] theorem total_nil {α : Type} (measure : α → Nat) : total measure [] = 0 := rfl

@[simp] theorem total_cons {α : Type} (measure : α → Nat) (a : α) (rest : List α) :
    total measure (a :: rest) = measure a + total measure rest := rfl

theorem total_map {α β : Type} (measure : β → Nat) (f : α → β) (xs : List α) :
    total measure (xs.map f) = total (fun a => measure (f a)) xs := by
  induction xs with
  | nil => rfl
  | cons a rest ih => rw [List.map_cons, total_cons, total_cons, ih]

theorem total_const {α : Type} (n : Nat) (xs : List α) : total (fun _ => n) xs = xs.length * n := by
  induction xs with
  | nil => simp
  | cons a rest ih => rw [total_cons, ih, List.length_cons, Nat.add_one_mul, Nat.add_comm]

end ErrorCatalog
