import ErrorCatalog.Toml.Quoted
import ErrorCatalog.Toml.Scalar
import ErrorCatalog.Toml.Table

/-!
# `ErrorCatalog/Toml/Document.lean` — reading a document

A document is a sequence of lines: headers, and keys with values. Reading goes from the front of
the text to its end and never back; what is read is taken off the front. A document that is wrong
is wrong at a place, and the place is the number of characters that were left there.

Values nest. The depth to which arrays and tables in braces may do so is limited, and the limit is
what `value` recurses on; a sequence of items recurses on a bound for the number of items, for which
the length of the text is always enough.
-/

set_option autoImplicit false

namespace ErrorCatalog

/-- Reading a piece of a document. -/
abbrev Scan (α : Type) := StateT Text (Except Nat) α

namespace Scan

variable {α : Type}

/-! ## 1. Steps -/

/-- The document is wrong here. -/
def fault : Scan α := fun rest => .error rest.length

/-- A piece that a function cuts off the front, if it can. -/
def cut (f : Text → Option (α × Text)) : Scan α := fun rest =>
  match f rest with
  | some result => .ok result
  | none => .error rest.length

def run (isOfKind : Char → Bool) : Scan Text := fun rest =>
  .ok (rest.takeWhile isOfKind, rest.dropWhile isOfKind)

/-- Whether a character comes next; if so, it is taken. -/
def accept (c : Char) : Scan Bool := fun rest =>
  match rest with
  | [] => .ok (false, [])
  | d :: more => if d = c then .ok (true, more) else .ok (false, rest)

def expect (c : Char) : Scan Unit := do
  if !(← accept c) then fault

def measured (piece : Scan α) : Scan (Extent × α) := do
  let before ← get
  let result ← piece
  let after ← get
  return (⟨before.length, after.length⟩, result)

/-- Spaces and tabs. -/
def blanks : Scan Unit := do let _ ← run isInlineBlank

/-- A text without the blanks, the line ends and the comments it begins with. -/
def afterLayout (inComment : Bool) : Text → Text
  | [] => []
  | c :: rest =>
    if c = '\n' then afterLayout false rest
    else if inComment then afterLayout true rest
    else if isLineBlank c then afterLayout false rest
    else if c = '#' then afterLayout true rest
    else c :: rest

/-- Blanks, line ends and comments. -/
def layout : Scan Unit := modify (afterLayout false)

/-- The end of a line, after blanks and a comment. -/
def lineEnd : Scan Unit := do
  blanks
  if ← accept '#' then let _ ← run (· ≠ '\n')
  let _ ← accept '\r'
  if (← get) ≠ [] then expect '\n'

/-! ## 2. Keys -/

/-- Whether a character may be part of a key without quotes. -/
def isKeyChar (c : Char) : Bool := c.isAlphanum || c == '_' || c == '-'

/-- The key that a text begins with, and what comes after it. -/
def keyText? (t : Text) : Option (Text × Text) :=
  match t with
  | '"' :: rest => lineStringAfter? '"' rest
  | '\'' :: rest => lineStringAfter? '\'' rest
  | _ => if (t.takeWhile isKeyChar).isEmpty then none
    else some (t.takeWhile isKeyChar, t.dropWhile isKeyChar)

/-- A key without dots. -/
def key : Scan TomlKey := do
  let (extent, text) ← measured (cut keyText?)
  return ⟨text, extent⟩

/-- A dotted key with at most `bound` parts. -/
def keysUpTo : Nat → Scan TomlPath
  | 0 => fault
  | bound + 1 => do
    let first ← key
    blanks
    if ← accept '.' then
      blanks
      let rest ← keysUpTo bound
      return ⟨first :: rest.above, rest.last⟩
    else return ⟨[], first⟩

/-- The largest number of parts of a dotted key. -/
def maxKeyParts : Nat := 80

def path : Scan TomlPath := keysUpTo maxKeyParts

/-! ## 3. Values -/

/-- The scalar that a text begins with, and what comes after it. A date and a time may have a space
between them. -/
def scalarText? (t : Text) : Option (Toml × Text) :=
  let first := t.takeWhile isScalarChar
  match t.dropWhile isScalarChar with
  | ' ' :: rest =>
    if isDate first ∧ (rest.head?.any Char.isDigit) then
      (scalar? (first ++ ' ' :: rest.takeWhile isScalarChar)).map (·, rest.dropWhile isScalarChar)
    else (scalar? first).map (·, ' ' :: rest)
  | rest => (scalar? first).map (·, rest)

/-- The items of an array after its opening bracket, at most `bound`, given how an item is read. -/
def items (item : Scan Toml) : Nat → Scan (List (Extent × Toml))
  | 0 => fault
  | bound + 1 => do
    layout
    if ← accept ']' then return []
    let first ← measured item
    layout
    if ← accept ',' then return first :: (← items item bound)
    expect ']'
    return [first]

/-- A key and its value in braces, added to entries. The line may end before and after the equals
sign. -/
def entry (item : Scan Toml) (entries : TomlEntries) : Scan TomlEntries := do
  let path ← path
  layout
  expect '='
  layout
  let value ← measured item
  liftM (entries.defineDotted path.last value path.above)

/-- The entries of a table in braces after its opening brace, at most `bound`, added to entries. -/
def inlineEntries (item : Scan Toml) : Nat → TomlEntries → Scan TomlEntries
  | 0, _ => fault
  | bound + 1, entries => do
    layout
    if ← accept '\x7d' then return entries
    let entries ← entry item entries
    layout
    if ← accept ',' then inlineEntries item bound entries
    else
      expect '\x7d'
      return entries

/-- The table in braces after its opening brace. -/
def inlineTable (item : Scan Toml) : Scan Toml := do
  return .table .inline (← inlineEntries item (← get).length [])

/-- A value in which values nest at most `depth` deep. -/
def value (depth : Nat) : Scan Toml := do
  if ← accept '"' then return .string (← cut (stringAfter? '"'))
  if ← accept '\'' then return .string (← cut (stringAfter? '\''))
  match depth with
  | 0 => cut scalarText?
  | depth + 1 =>
    if ← accept '[' then return .array (← items (value depth) (← get).length)
    if ← accept '\x7b' then inlineTable (value depth)
    else cut scalarText?

/-- How deep values may nest. -/
def maxDepth : Nat := 80

/-! ## 4. Documents -/

/-- What was read of a document, and the keys of the header that was read last. -/
structure Reading where
  entries : TomlEntries
  table : List TomlKey

/-- A header after its first bracket. -/
def header : Scan (Bool × TomlPath) := do
  let isItem ← accept '['
  blanks
  let path ← path
  blanks
  expect ']'
  if isItem then expect ']'
  return (isItem, path)

/-- A line with a header, or with a key and its value. -/
def line (reading : Reading) : Scan Reading := do
  if (← get).head? = some '[' then
    let (extent, isItem, path) ← measured (do expect '['; header)
    let change := if isItem then TomlEntries.openItem path.last extent
      else TomlEntries.openTable path.last extent
    let entries ← liftM (reading.entries.changeBelow change path.above)
    return ⟨entries, path.keys⟩
  else
    let path ← path
    blanks
    expect '='
    blanks
    let value ← measured (value maxDepth)
    let change := TomlEntries.defineDotted path.last value path.above
    let entries ← liftM (reading.entries.changeBelow change reading.table)
    return { reading with entries }

/-- All lines, of which there are at most `bound`. -/
def lines : Nat → Reading → Scan Reading
  | 0, _ => fault
  | bound + 1, reading => do
    layout
    if (← get) = [] then return reading
    let next ← line reading
    lineEnd
    lines bound next

end Scan

/-- The first character that may not be in a document: a control character other than tabs and line
ends. The answer is what is left there. -/
def firstControl? : Text → Option Nat
  | [] => none
  | '\r' :: '\n' :: rest => firstControl? rest
  | c :: rest =>
    if (c.toNat < 32 ∧ c ≠ '\t' ∧ c ≠ '\n') ∨ c.toNat = 127 then some (rest.length + 1)
    else firstControl? rest

def withoutByteOrderMark (t : Text) : Text :=
  match t with
  | '\uFEFF' :: rest => rest
  | _ => t

/-- The entries of a document, or the place where it is wrong. -/
def TomlEntries.ofText (document : Text) : Except Nat TomlEntries :=
  match firstControl? document with
  | some place => .error place
  | none =>
    let text := withoutByteOrderMark document
    (Scan.lines (text.length + 1) ⟨[], []⟩ text).map fun (reading, _) => reading.entries

end ErrorCatalog
