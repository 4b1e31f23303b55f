import ErrorCatalog.Text.Blank
import ErrorCatalog.Text.Camel

/-!
# `ErrorCatalog/Language.lean` — the target languages

Five languages, in a fixed order: the order of the constructors is the order in which a run treats
them. Each has an id (which is also the name of its output directory), a label for people, and a
file extension.

A language decides two things about the text it is given: how an attribute becomes the name of a
field (`fieldName`) and how a value becomes a string literal (`literal`). A literal is closed by
the first double quote that no backslash precedes, so exactly the backslash and the double quote
have to be escaped — and, in Kotlin, the dollar sign, which would start a template. Line breaks and
control characters are *not* escaped: a value is one line of the input and cannot hold them.
-/

set_option autoImplicit false

namespace ErrorCatalog

/-- A language that source code is generated for. -/
inductive Language where
  | go
  | java
  | kotlin
  | python
  | javascript
deriving DecidableEq

namespace Language

def all : List Language := [.go, .java, .kotlin, .python, .javascript]

/-- The place of a language in the order. -/
def rank : Language → Nat
  | .go => 0
  | .java => 1
  | .kotlin => 2
  | .python => 3
  | .javascript => 4

/-- The identifier of a language, and the name of its output directory. -/
def id : Language → Text
  | .go => "go".toList
  | .java => "java".toList
  | .kotlin => "kotlin".toList
  | .python => "python".toList
  | .javascript => "javascript".toList

/-- The name of a language as people write it. -/
def label : Language → Text
  | .go => "Go".toList
  | .java => "Java".toList
  | .kotlin => "Kotlin".toList
  | .python => "Python".toList
  | .javascript => "JavaScript".toList

/-- The extension of source files. -/
def extension : Language → Text
  | .go => "go".toList
  | .java => "java".toList
  | .kotlin => "kt".toList
  | .python => "py".toList
  | .javascript => "js".toList

/-- The language that an id or an extension names, up to surrounding blanks and ASCII case. -/
def ofText? (given : Text) : Option Language :=
  all.find? fun l =>
    l.id.sameIgnoringAsciiCase given.trim || l.extension.sameIgnoringAsciiCase given.trim

/-- The wording for a text that names no language. -/
def unknownMessage (given : Text) : Text := "unknown target language: ".toList ++ given

/-- The camel case of field names. Go exports a field by its capital letter. -/
def fieldCase : Language → CaseStyle
  | .go => .upperCamel
  | _ => .lowerCamel

def fieldName (l : Language) (attr : Text) : Text := Text.camel l.fieldCase attr

/-- The form of one character inside a string literal. -/
def escapedChar (l : Language) (c : Char) : Text :=
  if c = '\\' ∨ c = '"' ∨ (c = '$' ∧ l = .kotlin) then ['\\', c] else [c]

def literal (l : Language) (value : Text) : Text := '"' :: value.flatMap l.escapedChar ++ ['"']

def indent : Language → Text
  | .go => ['\t']
  | _ => "    ".toList

end Language

example : Language.ofText? " KT ".toList = some .kotlin ∧ Language.ofText? "golang".toList = none := by
  decide +kernel

example : Language.literal .kotlin "C:\\$x".toList = "\"C:\\\\\\$x\"".toList := by decide

end ErrorCatalog
