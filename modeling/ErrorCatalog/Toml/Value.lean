import ErrorCatalog.Text

/-!
# `ErrorCatalog/Toml/Value.lean` — what a settings document holds

Settings are written in TOML 1.1: tables of keys and values, where a value is a scalar, an array or
again a table. Every key and every value knows its `Extent`, the place in the document where it is
written, because a message about a wrong setting points at it.

Numbers are kept as they are written, without a range: an integer is any integer and a decimal
fraction is its digits with a power of ten. Whether a number is too large is asked when the number
is used, so a number that nobody uses is never too large. In the same way some texts count as
integers that are none, and are found out only when they are used. Of dates and times only the fact
that they are there is kept: no setting is one.

A table remembers how it came to be, since that decides what may still be added to it.
-/

set_option autoImplicit false

namespace ErrorCatalog

/-- A part of a document. It is measured by what is left of the document, because that is what a
reader knows: the number of characters from the start of the part, and from its end. -/
structure Extent where
  fromStart : Nat
  fromStop : Nat
deriving DecidableEq

structure TomlKey where
  text : Text
  extent : Extent
deriving DecidableEq

inductive TableOrigin where
  /-- By a header of its own. Keys are added below the header only. -/
  | header
  /-- By the header of a table inside it. It may still get a header of its own. -/
  | implied
  /-- By a dotted key. It may get more dotted keys, and tables inside it. -/
  | dotted
  /-- Between braces. It is complete. -/
  | inline
deriving DecidableEq

/-- A fraction as it is written. -/
inductive TomlFloat where
  | infinity (negative : Bool)
  | notANumber
  /-- `digits · 10^exponent`. -/
  | decimal (negative : Bool) (digits : Nat) (exponent : Int)
deriving DecidableEq

/-- A value. -/
inductive Toml where
  | string (value : Text)
  /-- An integer, or `none` for a text that only looks like one. -/
  | integer (value : Option Int)
  | float (value : TomlFloat)
  | boolean (value : Bool)
  /-- A date, a time, or both. -/
  | moment
  /-- An array in brackets. It is complete. -/
  | array (items : List (Extent × Toml))
  /-- The tables of one header in double brackets, of which there may be more. -/
  | tables (items : List (Extent × Toml))
  | table (origin : TableOrigin) (entries : List (TomlKey × Extent × Toml))

/-- The entries of a table: keys with their values and where the values are written. -/
abbrev TomlEntries := List (TomlKey × Extent × Toml)

def TomlEntries.get? (entries : TomlEntries) (key : Text) : Option (Extent × Toml) :=
  (entries.find? fun p => p.1.text == key).map (·.2)

/-- The entries with the value of a key set. A key that is there keeps its place. -/
def TomlEntries.set (key : TomlKey) (value : Extent × Toml) : TomlEntries → TomlEntries
  | [] => [(key, value)]
  | p :: rest =>
    if p.1.text = key.text then (p.1, value) :: rest else p :: TomlEntries.set key value rest

end ErrorCatalog
