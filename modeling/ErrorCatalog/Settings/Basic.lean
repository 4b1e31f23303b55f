import ErrorCatalog.Catalog.Policy
import ErrorCatalog.File.Path
import ErrorCatalog.Language

/-!
# `ErrorCatalog/Settings/Basic.lean` — what can be set

A run has five settings: where the output goes, the languages, the package, and the two policies.
They can be given in two places, in a settings file and on the command line, and in both each of
them can be left out. `Settings` is what one place gives.

The settings are numbered, so to speak, by `Setting`. Its order is the one in which a message lists
them, and the one in which a settings file may give them without their keys.
-/

set_option autoImplicit false

namespace ErrorCatalog

/-- What one place gives. An empty list of languages is one that is not given. -/
structure Settings where
  outputDirectory : Option Path := none
  languages : List Language := []
  package : Option Text := none
  onCollision : Option CollisionPolicy := none
  onOverflow : Option OverflowPolicy := none
deriving DecidableEq

inductive Setting where
  | outputDirectory
  | languages
  | package
  | onCollision
  | onOverflow
deriving DecidableEq

def Setting.all : List Setting := [.outputDirectory, .languages, .package, .onCollision, .onOverflow]

def Setting.key : Setting → Text
  | .outputDirectory => "output_dir".toList
  | .languages => "languages".toList
  | .package => "package".toList
  | .onCollision => "on_collision".toList
  | .onOverflow => "on_overflow".toList

def Setting.ofKey? (key : Text) : Option Setting := Setting.all.find? (·.key == key)

end ErrorCatalog
