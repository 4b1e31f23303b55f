import ErrorCatalog.Text

/-!
# `ErrorCatalog/Source/Line.lean` — physical lines

A line ends at a line feed, at a carriage return, or at a carriage return followed by a line feed,
which counts once. The terminator is not part of the line, the styles may be mixed freely within
one text, and a terminator at the very end opens no further line.

`LineEnd` names the three terminators. `physicalLines` forgets which of them it met; a text is
therefore determined by its lines only up to the choice of terminators.
-/

set_option autoImplicit false

namespace ErrorCatalog

/-- The three ways to end a line. -/
inductive LineEnd where
  | lineFeed
  | carriageReturn
  | both
deriving DecidableEq

/-- The characters of a line terminator. -/
def LineEnd.text : LineEnd → Text
  | .lineFeed => ['\n']
  | .carriageReturn => ['\r']
  | .both => ['\r', '\n']

/-- The lines of a text, without their terminators. -/
def physicalLines : Text → List Text
  | [] => []
  | '\n' :: rest => [] :: physicalLines rest
  | '\r' :: '\n' :: rest => [] :: physicalLines rest
  | '\r' :: rest => [] :: physicalLines rest
  | c :: rest =>
    match physicalLines rest with
    | [] => [[c]]
    | line :: lines => (c :: line) :: lines

example : physicalLines "a\r\n\rb\n\nc".toList = [['a'], [], ['b'], [], ['c']] := by decide

end ErrorCatalog
