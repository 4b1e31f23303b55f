import ErrorCatalog.Text.Escape

/-!
# `ErrorCatalog/Report/Box.lean` — rows in a box

A box shows rows of cells below a row of titles, with rules between them:

    ╭──────────┬───────╮
    │ Language │ Bytes │
    ╞══════════╪═══════╡
    │ Go       │   376 │
    ╰──────────┴───────╯

A column is as wide as its widest cell, the title included, with a space on each side. Widths are
counted in terminal columns, without escape sequences, and a cell that leaves the terminal painted
is followed by a reset. A box is not fitted to any terminal; it is as wide as it has to be.
-/

set_option autoImplicit false

namespace ErrorCatalog

/-- Where a cell stands in its column. -/
inductive Alignment where
  | left
  | right
  | center
deriving DecidableEq

/-- A text filled up with spaces to a width. An odd space of a centered text goes to the left. -/
def Alignment.fill (a : Alignment) (width : Nat) (t : Text) : Text :=
  let free := width - t.shownColumns
  match a with
  | .left => t ++ Text.filler ' ' free
  | .right => Text.filler ' ' free ++ t
  | .center => Text.filler ' ' (free - free / 2) ++ t ++ Text.filler ' ' (free / 2)

structure BoxColumn where
  title : Text
  alignment : Alignment := .left

structure Box where
  columns : List BoxColumn
  rows : List (List Text)
  /-- What stands between two cells of a row. -/
  divider : Char := '│'
  /-- Whether there is a rule between two rows. -/
  ruled : Bool := true

/-- The characters of a rule, from left to right. -/
structure RuleStyle where
  left : Char
  line : Char
  crossing : Char
  right : Char

/-- The rule above the titles. -/
def topRule : RuleStyle := ⟨'╭', '─', '┬', '╮'⟩

def titleRule : RuleStyle := ⟨'╞', '═', '╪', '╡'⟩

/-- The rule between two rows. -/
def rowRule : RuleStyle := ⟨'├', '─', '┼', '┤'⟩

/-- The rule below the last row. -/
def bottomRule : RuleStyle := ⟨'╰', '─', '┴', '╯'⟩

namespace Box

/-- The cells of a column, the title first. -/
def columnCells (b : Box) (index : Nat) (column : BoxColumn) : List Text :=
  column.title :: b.rows.map fun row => row.getD index []

/-- The width of every column, without the spaces around a cell. -/
def widths (b : Box) : List Nat :=
  b.columns.mapIdx fun index column =>
    ((b.columnCells index column).map Text.shownColumns).foldl max 0

def rule (b : Box) (style : RuleStyle) : Text :=
  style.left ::
    Text.joined [style.crossing] (b.widths.map fun w => Text.filler style.line (w + 2)) ++
    [style.right]

def row (b : Box) (cells : List Text) : Text :=
  let filled := (b.columns.zip (b.widths.zip cells)).map fun (column, width, cell) =>
    ' ' :: column.alignment.fill width cell.unpaintedAtEnd ++ [' ']
  '│' :: Text.joined [b.divider] filled ++ ['│']

/-- The rows with the rules between them. -/
def body (b : Box) : List Text :=
  let rows := b.rows.map b.row
  if b.ruled then rows.intersperse (b.rule rowRule) else rows

def lines (b : Box) : List Text :=
  [b.rule topRule, b.row (b.columns.map (·.title)), b.rule titleRule] ++ b.body ++
    [b.rule bottomRule]

end Box

end ErrorCatalog
