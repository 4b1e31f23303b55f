import ErrorCatalog.Source.Line

/-!
# `ErrorCatalog/Source/Row.lean` — rows of fields

The input format has one row per line and a vertical bar between two fields, and that is all of it:
no quoting, no escapes, no trimming. Two rules are less obvious.

* A byte order mark at the start of **any** line is dropped, not only at the start of the text. A
  line that consists of nothing else is a row with *no* field at all, while an ordinary line always
  has at least one.
* An empty line is skipped but counted, so the number a row carries is the number of its line.

Reading is in two steps, so that the only way to fail is visible: `Source.ofBytes?` decodes, and
`Source.ofText` cannot fail.
-/

set_option autoImplicit false

namespace ErrorCatalog

/-- The character between two fields. -/
def fieldDelimiter : Char := '|'

def byteOrderMark : Char := '\uFEFF'

/-- A line without the byte order mark it may start with. -/
def withoutMark : Text → Text
  | [] => []
  | c :: rest => if c = byteOrderMark then rest else c :: rest

def splitFields (line : Text) : List Text :=
  match withoutMark line with
  | [] => []
  | content => Text.pieces (· == fieldDelimiter) content

/-- One line of the input, cut into fields. -/
structure Row where
  /-- The number of the line, counted from one. -/
  line : Nat
  fields : List Text
deriving DecidableEq

/-- The rows of consecutive lines, the first of which has the given number. -/
def rowsFrom : Nat → List Text → List Row
  | _, [] => []
  | n, [] :: lines => rowsFrom (n + 1) lines
  | n, line :: lines => ⟨n, splitFields line⟩ :: rowsFrom (n + 1) lines

/-- All rows of one input, with the name the input is reported under. -/
structure Source where
  name : Text
  rows : List Row
deriving DecidableEq

def inlineName : Text := "<input>".toList

/-- Reads a text. -/
def Source.ofText (name text : Text) : Source := ⟨name, rowsFrom 1 (physicalLines text)⟩

/-- Reads bytes; `none` if they are not UTF-8. -/
def Source.ofBytes? (name : Text) (bytes : ByteArray) : Option Source :=
  (Text.decode? bytes).map (Source.ofText name)

example : splitFields "\uFEFFa||b ".toList = ["a".toList, [], "b ".toList] := by decide

example : splitFields "\uFEFF".toList = [] ∧ splitFields "|".toList = [[], []] := by decide

end ErrorCatalog
