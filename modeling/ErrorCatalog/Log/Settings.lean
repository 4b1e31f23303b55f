import ErrorCatalog.Log.Filter
import ErrorCatalog.Script

/-!
# `ErrorCatalog/Log/Settings.lean` — how a log is set up

The level of a log is about the program's own targets; of everything else only warnings and errors
are shown. Unless the level is settled, an environment variable with a list of directives may take
its place altogether. A list that cannot be read counts as none.
-/

set_option autoImplicit false

namespace ErrorCatalog

structure LogSettings where
  level : Threshold := some .warn
  /-- Whether an environment variable may take the place of the level. -/
  isReplaceable : Bool := true
  style : LogStyle := { colors := true }
  /-- The file that lines are added to; `none` is the standard error stream. -/
  file : Option Path := none

/-- The families of the program's own targets. -/
def ownTargets : List Text :=
  ["errgen_cli", "errgen_ingest", "errgen_model", "errgen_render"].map String.toList

def Filter.ofLevel (level : Threshold) : Filter :=
  ⟨{ threshold := some .warn } ::
    ownTargets.map fun target => { target := some target, threshold := level }⟩

/-- The filter of a log, given the environment variable. -/
def LogSettings.filter (s : LogSettings) (given : Option Text) : Filter :=
  match s.isReplaceable, given.bind Filter.ofText? with
  | true, some filter => filter
  | _, _ => Filter.ofLevel s.level

/-- The logger of a log, given the environment variable. -/
def LogSettings.logger (s : LogSettings) (given : Option Text) : Script.Logger :=
  { filter := s.filter given, style := s.style, file := s.file }

end ErrorCatalog
