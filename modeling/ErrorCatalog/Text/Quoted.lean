import ErrorCatalog.Text
import ErrorCatalog.Text.Range
import ErrorCatalog.Text.PrintTable

/-!
# `ErrorCatalog/Text/Quoted.lean` — a text shown in a message

A message that names a piece of input shows it between double quotes, and whatever cannot be seen
is spelled out: the usual short escapes where there is one, `\u` with the code point in braces
otherwise. Characters that would combine with the quote before them are spelled out too.

This is for messages only. The string literals of generated source code have rules of their own,
in `ErrorCatalog/Language.lean`.
-/

set_option autoImplicit false

namespace ErrorCatalog

/-- How one character is shown between double quotes. -/
def shownChar (c : Char) : Text :=
  if c = '"' then ['\\', '"']
  else if c = '\\' then ['\\', '\\']
  else if c = '\n' then ['\\', 'n']
  else if c = '\r' then ['\\', 'r']
  else if c = '\t' then ['\\', 't']
  else if c.toNat = 0 then ['\\', '0']
  else if inRanges extenderRanges c || inRanges unprintableRanges c then
    "\\u".toList ++ '\x7b' :: Text.ofNatHex c.toNat ++ ['\x7d']
  else [c]

/-- A text between double quotes, with everything unprintable spelled out. -/
def Text.shown (t : Text) : Text := '"' :: t.flatMap shownChar ++ ['"']

example : Text.shown ['a', '"', '\t', '\u200B'] = "\"a\\\"\\t\\u\x7b200b\x7d\"".toList := by
  decide +kernel

end ErrorCatalog
