import ErrorCatalog.Toml.Value

/-!
# `ErrorCatalog/Toml/Table.lean` — putting tables together

A document does not write its tables in one piece. Headers and dotted keys reach into tables that
are there, or that are made on the way, and the rules say which tables may still be reached into:

* nothing is added to a value that is not a table, or that was written in one piece (an array in
  brackets, a table in braces);
* a key is given a value once, and a table gets a header once;
* a dotted key does not reach into a table that has a header of its own, and what it adds is added
  to a table that dotted keys have made;
* a header or a dotted key goes through the last table of an array of tables.

Every function here takes the entries of a table and answers with the new entries, or with the
place of the key that broke a rule. All of them recurse on the keys that lead to the place of the
change.
-/

set_option autoImplicit false

namespace ErrorCatalog

/-- A dotted key: the keys before the last dot, and the one after it. -/
structure TomlPath where
  above : List TomlKey
  last : TomlKey

/-- All keys of a dotted key, in order. -/
def TomlPath.keys (p : TomlPath) : List TomlKey := p.above ++ [p.last]

namespace TomlEntries

/-- Whether a dotted key may go through a table. -/
def isOpenToDottedKeys : TableOrigin → Bool
  | .dotted => true
  | .implied => true
  | .header => false
  | .inline => false

/-- Gives a value to a key that has none. -/
def define (last : TomlKey) (value : Extent × Toml) (entries : TomlEntries) :
    Except Nat TomlEntries :=
  match entries.get? last.text with
  | none => .ok (entries.set last value)
  | some _ => .error last.extent.fromStart

/-- Changes the last table of an array of tables. -/
def changeLast (change : TomlEntries → Except Nat TomlEntries) (fault : Nat)
    (items : List (Extent × Toml)) : Except Nat (List (Extent × Toml)) :=
  match items.getLast? with
  | some (extent, .table origin inner) =>
    (change inner).map fun inner => items.dropLast ++ [(extent, .table origin inner)]
  | _ => .error fault

/-- Gives a value to a dotted key that has none, and makes the tables on the way to it, given
whether the entries are those of a table that may get it. -/
def defineAt (isDotted : Bool) (last : TomlKey) (value : Extent × Toml) :
    List TomlKey → TomlEntries → Except Nat TomlEntries
  | [], entries => if isDotted then entries.define last value else .error last.extent.fromStart
  | k :: above, entries =>
    match entries.get? k.text with
    | none =>
      (defineAt true last value above []).map fun inner =>
        entries.set k (k.extent, .table .dotted inner)
    | some (extent, .table origin inner) =>
      if isOpenToDottedKeys origin then
        (defineAt (origin == .dotted) last value above inner).map fun inner =>
          entries.set k (extent, .table origin inner)
      else .error k.extent.fromStart
    | some (extent, .tables items) =>
      (changeLast (defineAt false last value above) k.extent.fromStart items).map fun items =>
        entries.set k (extent, .tables items)
    | some _ => .error k.extent.fromStart

/-- Gives a value to a dotted key that has none, and makes the tables on the way to it. -/
def defineDotted (last : TomlKey) (value : Extent × Toml) (above : List TomlKey)
    (entries : TomlEntries) : Except Nat TomlEntries :=
  entries.defineAt true last value above

/-- Changes the table that a header leads to, and makes the tables on the way to it. -/
def changeBelow (change : TomlEntries → Except Nat TomlEntries) :
    List TomlKey → TomlEntries → Except Nat TomlEntries
  | [], entries => change entries
  | k :: path, entries =>
    match entries.get? k.text with
    | none =>
      (changeBelow change path []).map fun inner =>
        entries.set k (k.extent, .table .implied inner)
    | some (extent, .table origin inner) =>
      if origin = .inline then .error k.extent.fromStart
      else
        (changeBelow change path inner).map fun inner =>
          entries.set k (extent, .table origin inner)
    | some (extent, .tables items) =>
      (changeLast (changeBelow change path) k.extent.fromStart items).map fun items =>
        entries.set k (extent, .tables items)
    | some _ => .error k.extent.fromStart

def openTable (last : TomlKey) (header : Extent) (entries : TomlEntries) :
    Except Nat TomlEntries :=
  match entries.get? last.text with
  | none => .ok (entries.set last (header, .table .header []))
  | some (_, .table .implied inner) => .ok (entries.set last (header, .table .header inner))
  | some _ => .error last.extent.fromStart

/-- Adds a table to an array of tables. -/
def openItem (last : TomlKey) (header : Extent) (entries : TomlEntries) : Except Nat TomlEntries :=
  match entries.get? last.text with
  | none => .ok (entries.set last (header, .tables [(header, .table .header [])]))
  | some (extent, .tables items) =>
    .ok (entries.set last (extent, .tables (items ++ [(header, .table .header [])])))
  | some _ => .error last.extent.fromStart

end TomlEntries

end ErrorCatalog
