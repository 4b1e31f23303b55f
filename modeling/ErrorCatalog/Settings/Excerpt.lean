import ErrorCatalog.Settings.Decode

/-!
# `ErrorCatalog/Settings/Excerpt.lean` — pointing at a mistake

A message about a settings file shows the line with the mistake and marks the mistake below it:

    TOML parse error at line 2, column 14
      |
    2 | languages = ["js"]
      |              ^^^^
    unknown variant `js`, …

Lines and columns are counted from one, and a column is a character. The marks are as many as the
mistake has bytes, but they end with the line, and there is always one.
-/

set_option autoImplicit false

namespace ErrorCatalog

/-- A place in a document: the number of lines before it and of characters before it in its line,
and the text of the line. -/
structure LinePlace where
  linesBefore : Nat
  charsBefore : Nat
  line : Text

/-- The place with so many characters before it. -/
def LinePlace.ofOffset (document : Text) (offset : Nat) : LinePlace :=
  let before := Text.pieces (· == '\n') (document.take offset)
  let lineStart := before.getLast?.getD []
  { linesBefore := before.length - 1
    charsBefore := lineStart.length
    line := lineStart ++ (document.drop offset).takeWhile (· ≠ '\n') }

def Extent.text (e : Extent) (document : Text) : Text :=
  (document.drop (document.length - e.fromStart)).take (e.fromStart - e.fromStop)

/-- The number of marks below a mistake. -/
def markCount (place : LinePlace) (marked : Text) : Nat :=
  max 1 (min marked.byteSize (place.line.byteSize - place.charsBefore))

def excerpt (document : Text) (e : Extent) (message : Text) : Text :=
  let place := LinePlace.ofOffset document (document.length - e.fromStart)
  let number := Text.ofNat (place.linesBefore + 1)
  let gutter := Text.filler ' ' (number.length + 1) ++ ['|']
  Text.ofLines
    ["TOML parse error at line ".toList ++ number ++ ", column ".toList ++
        Text.ofNat (place.charsBefore + 1),
      gutter,
      number ++ " | ".toList ++ place.line,
      gutter ++ Text.filler ' ' (place.charsBefore + 1) ++
        Text.filler '^' (markCount place (e.text document)),
      message]

/-- The message about a settings file that cannot be used. -/
def SettingsError.message (document : Text) : SettingsError → Text
  | .notToml place => excerpt document ⟨place, place - 1⟩ "not a TOML document".toList
  | .mistaken mistake extent => excerpt document extent mistake.message

end ErrorCatalog
