import ErrorCatalog.CommandLine.Reading
import ErrorCatalog.Generate
import ErrorCatalog.Log.Settings
import ErrorCatalog.Settings.Basic

/-!
# `ErrorCatalog/CommandLine/Invocation.lean` — what a command line asks for

Once a command line has been read, its arguments become what the library works with: the settings
that override those of a file, the paths, the setup of the log. All values have been checked by
then, so every word has its meaning.

An argument that is common to all levels counts where it stands closest to the command's own: given
there, it hides the one given above. This goes for counted arguments, too; counts of two levels are
not added up.
-/

set_option autoImplicit false

namespace ErrorCatalog

/-- What is asked for. -/
inductive Request where
  | generate (input : Input) (overrides : Settings) (config : Option Path) (dryRun : Bool)
  | languages
deriving DecidableEq

/-- A command line that asks for a run. -/
structure Invocation where
  request : Request
  log : LogSettings

/-- The values of an argument on the level where it counts. -/
def CommandReading.values (r : CommandReading) (a : Argument) : List Text :=
  if r.own.has a then r.own.values a else r.above.values a

def CommandReading.value? (r : CommandReading) (a : Argument) : Option Text := (r.values a).head?

def CommandReading.meanings {α : Type} (r : CommandReading) (words : List (Text × α))
    (a : Argument) : List α := (r.values a).filterMap (words.lookup ·)

/-- The level that is so many steps more detailed than warnings. -/
def thresholdAt (steps : Int) : Threshold :=
  if steps ≤ -2 then none
  else if steps = -1 then some .error
  else if steps = 0 then some .warn
  else if steps = 1 then some .info
  else if steps = 2 then some .debug
  else some .trace

/-- The largest count of an argument; more are not counted. -/
def maxCount : Nat := 255

def CommandReading.count (r : CommandReading) (a : Argument) : Nat :=
  min maxCount (r.values a).length

/-- The setup of the log. Colors are used without being asked for on a terminal only. -/
def CommandReading.log (r : CommandReading) (isTerminal : Bool) : LogSettings :=
  let verbose := r.count .verbose
  let quiet := r.count .quiet
  let level := (r.meanings levelWords .logLevel).head?
  let file := (r.value? .logFile).map Path.mk
  { level := level.or (thresholdAt (Int.ofNat verbose - Int.ofNat quiet))
    isReplaceable := level.isNone && verbose == 0 && quiet == 0
    style :=
      { layout := (r.meanings layoutWords .logFormat).head?.getD .pretty
        timestamps := !(r.values .logTimestamps).isEmpty
        targets := !(r.values .logTarget).isEmpty
        colors := match (r.meanings colorWords .color).head?.getD .auto with
          | .always => true
          | .never => false
          | .auto => file.isNone && isTerminal }
    file }

def CommandReading.overrides (r : CommandReading) : Settings where
  outputDirectory := (r.value? .outputDirectory).map Path.mk
  languages := r.meanings languageWords .language
  package := r.value? .package
  onCollision := (r.meanings collisionWords .onCollision).head?
  onOverflow := (r.meanings overflowWords .onOverflow).head?

/-- What is asked for. -/
def CommandReading.request (r : CommandReading) : Request :=
  match r.command with
  | .languages => .languages
  | .generate =>
    .generate (.ofArgument ((r.value? .input).getD [])) r.overrides
      ((r.value? .config).map Path.mk) (!(r.values .dryRun).isEmpty)

/-- What a command line asks for. -/
def Invocation.ofWords (isTerminal : Bool) (words : List Text) : Except NoRun Invocation :=
  (readCommandLine words).map fun r => ⟨r.request, r.log isTerminal⟩

end ErrorCatalog
