import ErrorCatalog.CommandLine.Invocation
import ErrorCatalog.Report.Summary
import ErrorCatalog.Settings.Excerpt
import ErrorCatalog.Settings.Plan

/-!
# `ErrorCatalog/Program.lean` — the program as a whole

From a command line to what the program does and says. `Job.ofWords` decides everything that can be
decided without looking at a file: the logger and a script. The script, carried out, ends with the
exit of the program; what it writes to the log on the way is written by then.

A failed run says why on the standard error stream, as one chain of wordings, and leaves with 1.
A command line that is wrong leaves with 2. Nothing is written to the standard output unless the
run succeeds.
-/

set_option autoImplicit false

namespace ErrorCatalog

/-- How the program ends: its exit code, and what it writes last to the standard streams. -/
structure Exit where
  code : Nat
  output : Text := []
  errors : Text := []

/-- What the program finds around it. -/
structure Surroundings where
  /-- Whether the standard error stream is a terminal. -/
  isTerminal : Bool := false
  logVariable : Option Text := none

def logVariableName : String := "RUST_LOG"

/-- What the program is about to do. -/
structure Job where
  logger : Script.Logger
  script : Script Exit

def Exit.failure (chain : List Text) : Exit where
  code := 1
  errors := Text.ofLines ["error: ".toList ++ chainText chain]

def Exit.success (output : Text) : Exit := { code := 0, output }

/-! ## 1. No run -/

def NoRun.exit : NoRun → Exit
  | .version => .success (Text.ofLines [programName ++ ' ' :: programVersion])
  | .help level => .success (helpText level)
  | .nothingGiven => { code := 2, errors := helpText none }
  | .wrong error =>
    { code := 2
      errors := Text.ofLines
        ["error: ".toList ++ error.message, [], usageLine none, [],
          "For more information, try '--help'.".toList] }

/-! ## 2. Settings from a file -/

/-- The settings in a file, or why they cannot be used. -/
def loadSettings (path : Path) : Script (Except (List Text) Settings) :=
  (Script.contentsOf path).bind fun fetched =>
    let readFailed := fun (cause : FileError) =>
      ["read config ".toList ++ path.spelling, cause.message]
    .done <|
      match fetched with
      | .error cause => .error (readFailed cause)
      | .ok bytes =>
        match Text.decode? bytes with
        | none => .error (readFailed .notUtf8)
        | some document =>
          match Settings.ofText document with
          | .error e => .error ["parse config ".toList ++ path.spelling, e.message document]
          | .ok settings => .ok settings

def loadSettingsIfAny : Option Path → Script (Except (List Text) Settings)
  | none => .done (.ok {})
  | some path => loadSettings path

/-! ## 3. Commands -/

def planEvent (plan : Plan) : Event where
  target := "errgen::commands".toList
  level := .debug
  message := "resolved generate settings".toList
  fields :=
    [textField "output_dir" plan.outputDirectory.spelling,
      textField "languages"
        ('[' :: Text.joined ", ".toList (plan.languages.map Language.label) ++ [']']),
      textField "on_collision" plan.policy.onCollision.label,
      textField "on_overflow" plan.policy.onOverflow.label]

/-- Carries out a plan, and ends the program. -/
def generateAndExit (plan : Plan) : Script Exit :=
  .report (.happened [] (planEvent plan)) <|
    (generate plan).bind fun outcome => .done <|
      match outcome with
      | .error e => .failure ("generate".toList :: e.chain)
      | .ok report => .success report.summary

/-- Does what is asked for, and ends the program. -/
def Request.script : Request → Script Exit
  | .languages => .done (.success languageList)
  | .generate input overrides config dryRun =>
    (loadSettingsIfAny config).bind fun loaded =>
      match loaded with
      | .error chain => .done (.failure chain)
      | .ok file => generateAndExit (.ofSettings input file overrides dryRun)

/-- Makes sure that the log file is there and can be written to, if there is one. -/
def openLog (file : Option Path) (next : Script Exit) : Script Exit :=
  match file with
  | none => next
  | some path =>
    .touch path fun outcome =>
      match outcome with
      | .error cause => .done (.failure ["failed to initialize logging".toList, cause.message])
      | .ok () => next

/-! ## 4. The program -/

/-- What the program does, given its command line. -/
def Job.ofWords (around : Surroundings) (words : List Text) : Job :=
  match Invocation.ofWords around.isTerminal words with
  | .error reason => ⟨.silent, .done reason.exit⟩
  | .ok invocation =>
    ⟨invocation.log.logger around.logVariable,
      openLog invocation.log.file invocation.request.script⟩

/-- What the program leaves and how it ends, given what it finds. -/
def Job.run (job : Job) (clock : Clock) (input : ByteArray) (tree : FileTree) :
    Exit × Script.World :=
  job.script.run job.logger clock input ⟨tree, []⟩

/-- Everything written to the standard error stream. -/
def allErrors (result : Exit × Script.World) : Text := result.2.errors ++ result.1.errors

end ErrorCatalog
