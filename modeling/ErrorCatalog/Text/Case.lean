import ErrorCatalog.Text
import ErrorCatalog.Text.CaseTable

/-!
# `ErrorCatalog/Text/Case.lean` — upper case and lower case

The full case mapping of a character is a short text, not a character: `ß` has the upper case form
`SS`, `İ` the lower case form `i` followed by a combining dot. `upper` and `lower` read it off the
tables; a character that no row covers is its own image.

Texts are upper-cased character by character. Lower-casing a whole text is deliberately absent:
only first letters are ever lower-cased, and the one mapping that depends on the neighbours (the
final sigma) does not concern a first letter.
-/

set_option autoImplicit false

namespace ErrorCatalog

/-- The image of a character under one run, if the run covers it. -/
def CaseRun.image? (r : CaseRun) (n : Nat) : Option Nat :=
  if r.first ≤ n ∧ n ≤ r.last ∧ (n - r.first) % r.step = 0 then some (r.image + (n - r.first))
  else none

/-- The image of a character under a pair of tables. -/
def caseImage (runs : List CaseRun) (expansions : List (Nat × List Nat)) (c : Char) : Text :=
  match expansions.lookup c.toNat with
  | some image => image.map Char.ofNat
  | none =>
    match runs.findSome? (·.image? c.toNat) with
    | some n => [Char.ofNat n]
    | none => [c]

def upper (c : Char) : Text := caseImage upperRuns upperExpansions c

def lower (c : Char) : Text := caseImage lowerRuns lowerExpansions c

def Text.toUpper (t : Text) : Text := t.flatMap upper

theorem Text.toUpper_cons (c : Char) (t : Text) : Text.toUpper (c :: t) = upper c ++ t.toUpper :=
  List.flatMap_cons

theorem Text.toUpper_singleton (c : Char) : Text.toUpper [c] = upper c :=
  List.flatMap_singleton upper c

theorem Text.toUpper_append (t u : Text) : (t ++ u).toUpper = t.toUpper ++ u.toUpper := by
  simp [Text.toUpper]

theorem Text.toUpper_eq_self {t : Text} (h : ∀ c ∈ t, upper c = [c]) : t.toUpper = t := by
  induction t with
  | nil => rfl
  | cons c rest ih =>
    rw [toUpper_cons, h c List.mem_cons_self, ih fun d hd => h d (List.mem_cons_of_mem _ hd),
      List.singleton_append]

/-- The lower case form of an ASCII letter; every other character is kept. -/
def asciiLower (c : Char) : Char := if 'A' ≤ c ∧ c ≤ 'Z' then Char.ofNat (c.toNat + 32) else c

/-- Equality of texts up to the case of ASCII letters. -/
def Text.sameIgnoringAsciiCase (t u : Text) : Bool := t.map asciiLower == u.map asciiLower

example : Text.toUpper "straße".toList = "STRASSE".toList := by decide +kernel
example : lower 'İ' = ['i', '\u0307'] := by decide +kernel
example : upper 'ǆ' = ['Ǆ'] ∧ upper 'ŉ' = ['ʼ', 'N'] ∧ upper '日' = ['日'] := by decide +kernel

end ErrorCatalog
