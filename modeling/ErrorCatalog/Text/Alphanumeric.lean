import ErrorCatalog.Text.AlphanumericTable
import ErrorCatalog.Text.Range

/-!
# `ErrorCatalog/Text/Alphanumeric.lean` — letters and numbers

A character is alphanumeric if it is a letter or a number in any script. Digits of all scripts are
numbers, and so are fractions, roman numerals and numbers in circles; the underscore is neither.
-/

set_option autoImplicit false

namespace ErrorCatalog

/-- Whether a character is a letter or a number. -/
def isAlphanumeric (c : Char) : Bool := c.isAlphanum || inRanges alphanumericRanges c

example : isAlphanumeric 'é' = true ∧ isAlphanumeric '½' = true ∧ isAlphanumeric '_' = false ∧
    isAlphanumeric '→' = false := by decide +kernel

end ErrorCatalog
