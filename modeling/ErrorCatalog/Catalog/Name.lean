import ErrorCatalog.Text.Blank
import ErrorCatalog.Text.Case

/-!
# `ErrorCatalog/Catalog/Name.lean` — record names

A record is known by the first field of its row, its *label*, brought into a canonical form: the
blanks around it are dropped, everything is upper-cased, and each run of blanks inside becomes one
underscore. `Not Found` and ` not  found` are the same record, `NOT_FOUND`.

No other character is touched. A label with punctuation gives a name with the same punctuation, and
a blank label gives the empty name; both are names like any other.

`RecordName` carries the proof that its text is a canonical form, so a table keyed by record names
cannot hold a name that no label leads to.
-/

set_option autoImplicit false

namespace ErrorCatalog

/-- The canonical form of a label. -/
def canonicalName (label : Text) : Text :=
  Text.joined ['_'] (Text.words (Text.toUpper (Text.trim label)))

/-- The canonical form of some label. -/
structure RecordName where
  text : Text
  ofSomeLabel : ∃ label, canonicalName label = text

namespace RecordName

def ofLabel (label : Text) : RecordName := ⟨canonicalName label, label, rfl⟩

@[ext] theorem ext_text {a b : RecordName} (h : a.text = b.text) : a = b := by
  cases a; cases b; cases h; rfl

instance : DecidableEq RecordName := fun a b =>
  if h : a.text = b.text then isTrue (ext_text h) else isFalse fun e => h (e ▸ rfl)

/-- The order of names: code point order of their texts. -/
def precedes (a b : RecordName) : Bool := a.text.precedes b.text

def sortedDistinct (names : List RecordName) : List RecordName := (names.mergeSort precedes).eraseDups

end RecordName

example : canonicalName "  server \t  error ".toList = "SERVER_ERROR".toList := by decide +kernel
example : canonicalName "   ".toList = [] := by decide +kernel
example : canonicalName "bad-request (400)".toList = "BAD-REQUEST_(400)".toList := by decide +kernel

end ErrorCatalog
