import ErrorCatalog.Catalog.Policy
import ErrorCatalog.Language
import ErrorCatalog.Log.Layout

/-!
# `ErrorCatalog/CommandLine/Argument.lean` — what can stand on the command line

There are two commands, `generate` and `languages`, and the level above them. Each level has its
own arguments; the ones about the log and about colors are common to all levels, so they can be
given before or after the name of the command.

Everything about an argument is data: how it is spelled, whether it takes a value and which values
it takes, whether it can be repeated, on which levels it stands. How a command line is read is the
same for all arguments, and is in `ErrorCatalog/CommandLine/Reading.lean`.
-/

set_option autoImplicit false

namespace ErrorCatalog

inductive Command where
  | generate
  | languages
deriving DecidableEq

def Command.word : Command → Text
  | .generate => "generate".toList
  | .languages => "languages".toList

def Command.ofWord? (given : Text) : Option Command :=
  [Command.generate, .languages].find? (·.word == given)

/-- A command, or the level above all commands. -/
abbrev CommandLevel := Option Command

/-- Everything that can stand on the command line, but for the commands. -/
inductive Argument where
  | verbose
  | quiet
  | color
  | logLevel
  | logFormat
  | logFile
  | logTimestamps
  | logTarget
  | input
  | outputDirectory
  | language
  | package
  | onCollision
  | onOverflow
  | config
  | dryRun
  | help
  | version
deriving DecidableEq

inductive ArgumentRole where
  | value
  | values
  /-- It has no value, and is given once. -/
  | flag
  | count
  /-- It asks for an answer instead of a run. -/
  | request
deriving DecidableEq

namespace Argument

def common : List Argument :=
  [.verbose, .quiet, .color, .logLevel, .logFormat, .logFile, .logTimestamps, .logTarget, .help]

/-- The arguments of a level that are spelled with dashes. -/
def ofLevel : CommandLevel → List Argument
  | none => common ++ [.version]
  | some .generate =>
    common ++
      [.outputDirectory, .language, .package, .onCollision, .onOverflow, .config, .dryRun]
  | some .languages => common

/-- The argument of a level that is given without dashes. -/
def plainOfLevel? : CommandLevel → Option Argument
  | some .generate => some .input
  | _ => none

def role : Argument → ArgumentRole
  | .verbose => .count
  | .quiet => .count
  | .logTimestamps => .flag
  | .logTarget => .flag
  | .dryRun => .flag
  | .language => .values
  | .help => .request
  | .version => .request
  | _ => .value

def takesValue (a : Argument) : Bool := a.role == .value || a.role == .values

/-- The name after two dashes. -/
def longName : Argument → Text
  | .verbose => "verbose".toList
  | .quiet => "quiet".toList
  | .color => "color".toList
  | .logLevel => "log-level".toList
  | .logFormat => "log-format".toList
  | .logFile => "log-file".toList
  | .logTimestamps => "log-timestamps".toList
  | .logTarget => "log-target".toList
  | .input => []
  | .outputDirectory => "output-dir".toList
  | .language => "language".toList
  | .package => "package".toList
  | .onCollision => "on-collision".toList
  | .onOverflow => "on-overflow".toList
  | .config => "config".toList
  | .dryRun => "dry-run".toList
  | .help => "help".toList
  | .version => "version".toList

def letter? : Argument → Option Char
  | .verbose => some 'v'
  | .quiet => some 'q'
  | .language => some 'l'
  | .help => some 'h'
  | .version => some 'V'
  | _ => none

/-- What stands for the value in a message. -/
def placeholder : Argument → Text
  | .color => "WHEN".toList
  | .logLevel => "LOG_LEVEL".toList
  | .logFormat => "LOG_FORMAT".toList
  | .logFile => "PATH".toList
  | .input => "INPUT".toList
  | .outputDirectory => "DIR".toList
  | .language => "LANG".toList
  | .package => "NAME".toList
  | .onCollision => "ON_COLLISION".toList
  | .onOverflow => "ON_OVERFLOW".toList
  | .config => "FILE".toList
  | _ => []

def shown (a : Argument) : Text :=
  let value := '<' :: a.placeholder ++ ['>']
  if a = .input then value
  else
    "--".toList ++ a.longName ++
      if a.takesValue then ' ' :: value else if a.role = .count then "...".toList else []

end Argument

/-! ## Words -/

inductive ColorChoice where
  | auto
  | always
  | never
deriving DecidableEq

def colorWords : List (Text × ColorChoice) :=
  [("auto".toList, .auto), ("always".toList, .always), ("never".toList, .never)]

def levelWords : List (Text × Level) :=
  [("error".toList, .error), ("warn".toList, .warn), ("info".toList, .info),
   ("debug".toList, .debug), ("trace".toList, .trace)]

def layoutWords : List (Text × Layout) :=
  [("pretty".toList, .pretty), ("compact".toList, .compact), ("json".toList, .json)]

/-- The words for the languages. One language has two. -/
def languageWords : List (Text × Language) :=
  Language.all.map (fun l => (l.id, l)) ++ [("js".toList, .javascript)]

def collisionWords : List (Text × CollisionPolicy) :=
  [CollisionPolicy.overwrite, .reject].map fun p => (p.word, p)

def overflowWords : List (Text × OverflowPolicy) :=
  [OverflowPolicy.ignore, .reject].map fun p => (p.word, p)

/-- What is right as the value of an argument. -/
inductive ValueRule where
  | any
  | notEmpty
  | oneOf (words : List Text)

def Argument.valueRule : Argument → ValueRule
  | .color => .oneOf (colorWords.map (·.1))
  | .logLevel => .oneOf (levelWords.map (·.1))
  | .logFormat => .oneOf (layoutWords.map (·.1))
  | .language => .oneOf (languageWords.map (·.1))
  | .onCollision => .oneOf (collisionWords.map (·.1))
  | .onOverflow => .oneOf (overflowWords.map (·.1))
  | .package => .any
  | _ => .notEmpty

end ErrorCatalog
