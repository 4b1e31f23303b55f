import ErrorCatalog.Text
import ErrorCatalog.Text.Range

/-!
# `ErrorCatalog/Text/Blank.lean` — blank characters and words

A blank is a character of the Unicode property White_Space. That is a smaller set than "whatever
prints as empty": the four information separators U+001C … U+001F, the zero width space U+200B and
the byte order mark U+FEFF are all ordinary characters here, and a label made of them is not blank.

A word is a maximal run of characters that are not blank. `words` finds them by cutting at every
blank and dropping the empty pieces, which is why leading, trailing and doubled blanks never
matter.
-/

set_option autoImplicit false

namespace ErrorCatalog

/-- The ranges of White_Space, ends included. -/
def blankRanges : List (Nat × Nat) :=
  [(0x09, 0x0D), (0x20, 0x20), (0x85, 0x85), (0xA0, 0xA0), (0x1680, 0x1680), (0x2000, 0x200A),
   (0x2028, 0x2029), (0x202F, 0x202F), (0x205F, 0x205F), (0x3000, 0x3000)]

def isBlank (c : Char) : Bool := inRanges blankRanges c

namespace Text

/-- A text without the blanks before its first and after its last word. -/
def trim (t : Text) : Text := ((t.dropWhile isBlank).reverse.dropWhile isBlank).reverse

def words (t : Text) : List Text := (pieces isBlank t).filter (· ≠ [])

end Text

/-- The ASCII blanks that text files hold are blank, the byte order mark is not. -/
example : isBlank ' ' = true ∧ isBlank '\t' = true ∧ isBlank '\n' = true ∧ isBlank '\r' = true ∧
    isBlank '\uFEFF' = false := by decide

example : Text.words "  server \t error ".toList = ["server".toList, "error".toList] := by decide

end ErrorCatalog
