import ErrorCatalog.Artifact.Basic
import ErrorCatalog.Catalog.Basic

/-!
# `ErrorCatalog/Artifact/Constants.lean` — the constants of one attribute

For each attribute there is an artifact with one constant per record: the constant is called like
the record, and its value is the record's value of the attribute. Every record takes one line, in
the order of the catalog, between the lines that open and close the block. A Python class must not
be empty, so without records it says `pass`.
-/

set_option autoImplicit false

namespace ErrorCatalog

/-- The line that opens the block of constants. -/
def constantsOpening (l : Language) (name : Text) : Text :=
  match l with
  | .go => "const (".toList
  | .java => "public interface ".toList ++ name ++ " \x7b".toList
  | .kotlin => "object ".toList ++ name ++ " \x7b".toList
  | .python => "class ".toList ++ name ++ [':']
  | .javascript => "module.exports = Object.freeze(\x7b".toList

def constantLine (l : Language) (name literal : Text) : Text :=
  l.indent ++
    match l with
    | .go => name ++ " = ".toList ++ literal
    | .java => "String ".toList ++ name ++ " = ".toList ++ literal ++ [';']
    | .kotlin => "const val ".toList ++ name ++ " = ".toList ++ literal
    | .python => name ++ " = ".toList ++ literal
    | .javascript => name ++ ": ".toList ++ literal ++ [',']

/-- The lines that close the block. -/
def constantsClosing (l : Language) (noRecords : Bool) : List Text :=
  match l with
  | .go => [[')']]
  | .java => [['\x7d']]
  | .kotlin => [['\x7d']]
  | .python => if noRecords then [l.indent ++ "pass".toList] else []
  | .javascript => ["\x7d);".toList]

/-- The lines of the constants of the attribute at `column`, which has the given artifact name. -/
def constantsLines (c : Catalog) (column : Nat) (name : Text) (l : Language)
    (package : Option Text) : List Text :=
  packageLines l package ++ [constantsOpening l name] ++
    ((c.column column).map fun (record, value) => constantLine l record.text (l.literal value)) ++
    constantsClosing l c.isEmpty

/-- The constants of the attribute at `column`; `none` if there is no such attribute. -/
def renderConstants (c : Catalog) (column : Nat) (l : Language) (package : Option Text) :
    Option Artifact :=
  (c.attributes[column]?).map fun attr =>
    let name := attr.upperCamel
    { name, language := l, kind := .constants attr column,
      contents := Text.ofLines (constantsLines c column name l package) }

end ErrorCatalog
