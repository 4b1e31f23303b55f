import ErrorCatalog.Generate
import ErrorCatalog.Settings.Basic

/-!
# `ErrorCatalog/Settings/Plan.lean` — from settings to a plan

Each setting is decided on its own: by the command line if it is given there, else by the settings
file if it is given there, else by the default. The languages of a plan are in the order of
`Language.all` and distinct, in whatever order and however often they were given.
-/

set_option autoImplicit false

namespace ErrorCatalog

/-- The output directory if none is given. -/
def defaultOutputDirectory : Path := .ofString "output"

def defaultLanguages : List Language := [.go]

/-- Languages in their order, each once: sorted, then without those that repeat the one before. -/
def Language.inOrder (languages : List Language) : List Language :=
  (languages.mergeSort fun l m => l.rank ≤ m.rank).eraseReps

/-- The languages decided on, in the order in which they are given. -/
def chosenLanguages (overrides file : Settings) : List Language :=
  if overrides.languages ≠ [] then overrides.languages
  else if file.languages ≠ [] then file.languages
  else defaultLanguages

/-- The plan for an input, given the overrides of the command line and the settings of a file. -/
def Plan.ofSettings (input : Input) (file overrides : Settings) (dryRun : Bool) : Plan where
  input := input
  outputDirectory :=
    (overrides.outputDirectory.or file.outputDirectory).getD defaultOutputDirectory
  languages := Language.inOrder (chosenLanguages overrides file)
  policy :=
    { onCollision := (overrides.onCollision.or file.onCollision).getD .overwrite
      onOverflow := (overrides.onOverflow.or file.onOverflow).getD .ignore }
  package := overrides.package.or file.package
  dryRun := dryRun

end ErrorCatalog
