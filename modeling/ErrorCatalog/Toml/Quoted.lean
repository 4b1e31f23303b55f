import ErrorCatalog.Text

/-!
# `ErrorCatalog/Toml/Quoted.lean` — strings between quotes

There are four ways to write a string. It is *basic*, between double quotes and with escapes, or
*literal*, between single quotes and without; and it is on one line, or, with three quotes at each
end, on several.

A string is read in two steps. First its raw body is cut off, up to the closing quotes: a backslash
in a basic string takes the next character with it, so an escaped quote does not close the string.
Then the escapes in the body are replaced. The first step is a structural recursion; the second
goes ahead by at least one character each time.

The documents that get here have no control characters but tabs and line ends, so neither step
looks for others.
-/

set_option autoImplicit false

namespace ErrorCatalog

/-! ## 1. Escapes -/

/-- The character with the given number in hexadecimal. Surrogates are no characters. -/
def charOfHex? (digits : Text) : Option Char :=
  match digits.mapM Text.hexDigit? with
  | none => none
  | some ds =>
    let n := ds.foldl (fun n d => 16 * n + d) 0
    if h : n.isValidChar then some (Char.ofNatAux n h) else none

/-- The escape that is a character's number, with `count` digits after its letter. -/
def numberEscape? (count : Nat) (rest : Text) : Option (Text × Nat) :=
  if rest.length < count then none
  else (charOfHex? (rest.take count)).map fun c => ([c], count + 1)

def letterEscapes : List (Char × Char) :=
  [('b', '\x08'), ('t', '\t'), ('n', '\n'), ('f', '\x0c'), ('r', '\r'), ('e', '\x1b'), ('"', '"'),
    ('\\', '\\')]

/-- Whether a character is a space or a tab. -/
def isInlineBlank (c : Char) : Bool := c == ' ' || c == '\t'

/-- Whether a character is a space, a tab or part of a line end. -/
def isLineBlank (c : Char) : Bool := isInlineBlank c || c == '\n' || c == '\r'

/-- The escaped end of a line: it stands for nothing, and takes all blanks up to the next text. -/
def lineEscape? (t : Text) : Option (Text × Nat) :=
  match t.dropWhile isInlineBlank with
  | '\n' :: _ => some ([], (t.takeWhile isLineBlank).length)
  | '\r' :: _ => some ([], (t.takeWhile isLineBlank).length)
  | _ => none

/-- What the text after a backslash stands for, and how many characters of it that takes. -/
def escape? (multiline : Bool) (t : Text) : Option (Text × Nat) :=
  match t with
  | [] => none
  | c :: rest =>
    if c = 'x' then numberEscape? 2 rest
    else if c = 'u' then numberEscape? 4 rest
    else if c = 'U' then numberEscape? 8 rest
    else
      match letterEscapes.lookup c with
      | some meant => some ([meant], 1)
      | none => if multiline then lineEscape? t else none

/-- A raw body with its escapes replaced. -/
def unescape? (multiline : Bool) (t : Text) : Option Text :=
  match t with
  | [] => some []
  | c :: rest =>
    if c = '\\' then
      match escape? multiline rest with
      | none => none
      | some (meant, taken) => (unescape? multiline (rest.drop taken)).map (meant ++ ·)
    else (unescape? multiline rest).map (c :: ·)
termination_by t.length
decreasing_by
  · simp only [List.length_drop, List.length_cons]; omega
  · simp

/-! ## 2. Raw bodies -/

/-- The body of a string on one line, up to its closing quote, and what comes after the quote. -/
def lineBody? (quote : Char) : Text → Option (Text × Text)
  | [] => none
  | [c] => if c = quote then some ([], []) else none
  | c :: d :: rest =>
    if c = quote then some ([], d :: rest)
    else if c = '\n' ∨ c = '\r' then none
    else if c = '\\' ∧ quote = '"' then
      (lineBody? quote rest).map fun (body, after) => (c :: d :: body, after)
    else (lineBody? quote (d :: rest)).map fun (body, after) => (c :: body, after)

/-- The quotes at the end of a body on several lines: of up to five, the last three close it. -/
def closingQuotes (quote : Char) (t : Text) : Text × Text :=
  let run := (t.takeWhile (· == quote)).length
  (t.take (min run 5 - 3), t.drop (min run 5))

/-- The body of a string on several lines, up to its closing quotes, and what comes after them. -/
def blockBody? (quote : Char) : Text → Option (Text × Text)
  | [] => none
  | [_] => none
  | c :: d :: rest =>
    if c = quote ∧ d = quote ∧ rest.head? = some quote then
      some (closingQuotes quote (c :: d :: rest))
    else if c = '\\' ∧ quote = '"' then
      (blockBody? quote rest).map fun (body, after) => (c :: d :: body, after)
    else (blockBody? quote (d :: rest)).map fun (body, after) => (c :: body, after)

/-- A body on several lines without the line end it starts with, if it does. -/
def withoutFirstLineEnd (t : Text) : Text :=
  match t with
  | '\n' :: rest => rest
  | '\r' :: '\n' :: rest => rest
  | _ => t

/-! ## 3. Strings -/

def meaning? (quote : Char) (multiline : Bool) (body : Text) : Option Text :=
  if quote = '"' then unescape? multiline body else some body

/-- The string on one line that a text begins with, and what comes after it. The text starts after
the first quote. -/
def lineStringAfter? (quote : Char) (t : Text) : Option (Text × Text) :=
  (lineBody? quote t).bind fun (body, after) =>
    (meaning? quote false body).map fun value => (value, after)

/-- The string of any kind that a text begins with, as `lineStringAfter?`. -/
def stringAfter? (quote : Char) (t : Text) : Option (Text × Text) :=
  if t.take 2 = [quote, quote] then
    (blockBody? quote (withoutFirstLineEnd (t.drop 2))).bind fun (body, after) =>
      (meaning? quote true body).map fun value => (value, after)
  else lineStringAfter? quote t

example : stringAfter? '"' "a\\t\\u00e9\\\"b\" x".toList = some ("a\té\"b".toList, " x".toList) := by
  decide +kernel

example : stringAfter? '\'' "''\na'b''''' x".toList = some ("a'b''".toList, " x".toList) ∧
    stringAfter? '\'' "' x".toList = some ([], " x".toList) ∧
    stringAfter? '"' "\\q\"".toList = none := by decide +kernel

example : stringAfter? '"' "\"\"a \\  \n  b\"\"\"".toList = some ("a b".toList, []) := by
  decide +kernel

end ErrorCatalog
