import ErrorCatalog.Language

/-!
# `ErrorCatalog/Artifact/Basic.lean` — rendered source files

An artifact is one source file, complete and in memory: what it was rendered from, its name, its
language and its contents. The file name is the artifact's name with the extension of the language;
the name itself comes from the input and is not checked, so it may hold any character.

The package line belongs to every artifact of a language. Go always has one; Java and Kotlin have
one if a package is given and not blank; Python and JavaScript never do.
-/

set_option autoImplicit false

namespace ErrorCatalog

inductive ArtifactKind where
  /-- The constants of one attribute, by name and position. -/
  | constants (attr : Text) (column : Nat)
  /-- All attributes together. -/
  | enumeration
deriving DecidableEq

/-- One rendered source file. -/
structure Artifact where
  name : Text
  language : Language
  kind : ArtifactKind
  contents : Text
deriving DecidableEq

def Artifact.fileName (a : Artifact) : Text := a.name ++ '.' :: a.language.extension

/-- The name of the artifact that holds all attributes. -/
def enumerationName : Text := "ErrorEnum".toList

def defaultGoPackage : Text := "errcode".toList

/-- A package name that is given and not blank, without the blanks around it. -/
def effectivePackage (package : Option Text) : Option Text :=
  match package with
  | none => none
  | some given => if given.trim = [] then none else some given.trim

/-- The package declaration and the empty line after it, if the language has one. -/
def packageLines (l : Language) (package : Option Text) : List Text :=
  match l, effectivePackage package with
  | .go, some name => ["package ".toList ++ name, []]
  | .go, none => ["package ".toList ++ defaultGoPackage, []]
  | .java, some name => ["package ".toList ++ name ++ [';'], []]
  | .kotlin, some name => ["package ".toList ++ name, []]
  | _, _ => []

end ErrorCatalog
