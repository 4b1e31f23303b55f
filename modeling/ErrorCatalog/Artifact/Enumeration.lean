import ErrorCatalog.Artifact.Basic
import ErrorCatalog.Catalog.Basic

/-!
# `ErrorCatalog/Artifact/Enumeration.lean` — all attributes together

The second kind of artifact has a record type, whose fields are the attributes, and one named
instance per record with all its values. Fields follow the order of the attributes, instances the
order of the catalog, and every instance takes one line. Values past the last attribute are not
shown.

Each language has its own layout. They are given as lists of lines, so that what a language puts
before, between and after the instances can be read off; `instanceLines` is the part that the
records decide.
-/

set_option autoImplicit false

namespace ErrorCatalog

/-- One record as an instance: its name and the literals of its values. -/
structure Instance where
  name : Text
  literals : List Text

/-- The instance of a record, with one literal per attribute. -/
def Instance.ofRecord (l : Language) (width : Nat) (r : Record) : Instance :=
  ⟨r.name.text, (List.range width).map fun index => l.literal (r.values.cell index)⟩

/-- The type of the values in a Python enumeration. -/
def recordTypeName : Text := "ErrorRecord".toList

/-- Texts with a comma and a space between them. -/
def commaList (texts : List Text) : Text := Text.joined ", ".toList texts

/-- The lines of instances when a language separates them: all but the last end in `separator`, and
the last in `final`. -/
def separatedLines (line : Instance → Text) (separator final : Text) : List Instance → List Text
  | [] => []
  | [i] => [line i ++ final]
  | i :: rest => (line i ++ separator) :: separatedLines line separator final rest

/-- One instance in a Go, Java, Kotlin or Python enumeration: `before` the values, `after` them. -/
def callLine (l : Language) (before after : Text) (i : Instance) : Text :=
  l.indent ++ i.name ++ before ++ commaList i.literals ++ after

/-- One instance in a JavaScript enumeration: an object with one member per field. -/
def memberLine (fields : List Text) (i : Instance) : Text :=
  Language.indent .javascript ++ i.name ++ ": Object.freeze(\x7b ".toList ++
    commaList (List.zipWith (fun field literal => field ++ ": ".toList ++ literal) fields i.literals) ++
    " \x7d),".toList

def instanceLines (l : Language) (fields : List Text) (instances : List Instance) : List Text :=
  match l with
  | .go =>
    instances.map (callLine l (" = ".toList ++ enumerationName ++ ['\x7b']) ['\x7d'])
  | .java => separatedLines (callLine l ['('] [')']) [','] [';'] instances
  | .kotlin => separatedLines (callLine l ['('] [')']) [','] [] instances
  | .python =>
    instances.map (callLine l (" = ".toList ++ recordTypeName ++ ['(']) [')'])
  | .javascript => instances.map (memberLine fields)

def enumerationHead (l : Language) (fields : List Text) (noInstances : Bool) : List Text :=
  match l with
  | .go =>
    ["type ".toList ++ enumerationName ++ " struct \x7b".toList] ++
      fields.map (fun field => l.indent ++ field ++ " string".toList) ++
      [['\x7d'], [], "var (".toList]
  | .java =>
    ["public enum ".toList ++ enumerationName ++ " \x7b".toList] ++
      (if noInstances then [l.indent ++ [';']] else [])
  | .kotlin =>
    ["enum class ".toList ++ enumerationName ++ ['('] ++
      commaList (fields.map fun field => "val ".toList ++ field ++ ": String".toList) ++
      ") \x7b".toList]
  | .python =>
    ["from collections import namedtuple".toList, "from enum import Enum".toList, [],
      recordTypeName ++ " = namedtuple(\"".toList ++ recordTypeName ++ "\", [".toList ++
        commaList (fields.map fun field => '"' :: field ++ ['"']) ++ "])".toList,
      [], [], "class ".toList ++ enumerationName ++ "(Enum):".toList]
  | .javascript => ["module.exports = Object.freeze(\x7b".toList]

/-- The field, its constructor parameter and its accessor, in a Java enumeration. -/
def javaMembers (attributes fields : List Text) : List Text :=
  let pad := Language.indent .java
  [[]] ++ fields.map (fun field => pad ++ "private final String ".toList ++ field ++ [';']) ++
    [[], pad ++ enumerationName ++ ['('] ++
      commaList (fields.map fun field => "String ".toList ++ field) ++ ") \x7b".toList] ++
    fields.map (fun field => pad ++ pad ++ "this.".toList ++ field ++ " = ".toList ++ field ++ [';']) ++
    [pad ++ ['\x7d']] ++
    (attributes.zip fields).flatMap (fun (attr, field) =>
      [[], pad ++ "public String get".toList ++ attr.upperCamel ++ "() \x7b".toList,
        pad ++ pad ++ "return ".toList ++ field ++ [';'], pad ++ ['\x7d']])

/-- The accessors in a Python enumeration. -/
def pythonProperties (fields : List Text) : List Text :=
  let pad := Language.indent .python
  fields.flatMap fun field =>
    [[], pad ++ "@property".toList, pad ++ "def ".toList ++ field ++ "(self):".toList,
      pad ++ pad ++ "return self.value.".toList ++ field]

/-- The lines after the instances. -/
def enumerationFoot (l : Language) (attributes fields : List Text) : List Text :=
  match l with
  | .go => [[')']]
  | .java => javaMembers attributes fields ++ [['\x7d']]
  | .kotlin => [['\x7d']]
  | .python => pythonProperties fields
  | .javascript => ["\x7d);".toList]

/-- The lines of the artifact with all attributes. -/
def enumerationLines (c : Catalog) (l : Language) (package : Option Text) : List Text :=
  let fields := c.attributes.map l.fieldName
  packageLines l package ++ enumerationHead l fields c.records.isEmpty ++
    instanceLines l fields (c.records.map (Instance.ofRecord l c.width)) ++
    enumerationFoot l c.attributes fields

def renderEnumeration (c : Catalog) (l : Language) (package : Option Text) : Artifact :=
  { name := enumerationName, language := l, kind := .enumeration,
    contents := Text.ofLines (enumerationLines c l package) }

end ErrorCatalog
