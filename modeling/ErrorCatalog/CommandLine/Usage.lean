import ErrorCatalog.CommandLine.Argument
import ErrorCatalog.Text.Terminal

/-!
# `ErrorCatalog/CommandLine/Usage.lean` — what can be wrong with a command line

A command line that asks for no run gets an answer. It asked for help or for the version, or it was
empty, or something is wrong with it. `UsageError` is the causes, and its `message` the wording of
the first line of the answer.
-/

set_option autoImplicit false

namespace ErrorCatalog

def programName : Text := "errgen".toList

def programVersion : Text := "0.1.0".toList

/-- What can be wrong with a command line. -/
inductive UsageError where
  /-- A word or an option that has no place here. -/
  | unexpectedArgument (given : Text)
  /-- A value for an option that has none. -/
  | unexpectedValue (value : Text) (argument : Argument)
  | repeated (argument : Argument)
  | valueMissing (argument : Argument)
  | valueWrong (value : Text) (argument : Argument)
  /-- Two options that exclude each other; the first of them comes first. -/
  | conflict (first second : Argument)
  | unknownCommand (given : Text)
  | commandMissing
  | inputMissing

/-- What is printed of a text, between single quotes. What was given on a command line may hold
control characters, and none of them gets to the terminal. -/
def quotedPlain (t : Text) : Text := '\'' :: t.printed ++ ['\'']

def UsageError.message : UsageError → Text
  | .unexpectedArgument given => "unexpected argument ".toList ++ quotedPlain given ++ " found".toList
  | .unexpectedValue value argument =>
    "unexpected value ".toList ++ quotedPlain value ++ " for ".toList ++
      quotedPlain argument.shown ++ " found; no more were expected".toList
  | .repeated argument =>
    "the argument ".toList ++ quotedPlain argument.shown ++
      " cannot be used multiple times".toList
  | .valueMissing argument =>
    "a value is required for ".toList ++ quotedPlain argument.shown ++
      " but none was supplied".toList
  | .valueWrong value argument =>
    "invalid value ".toList ++ quotedPlain value ++ " for ".toList ++ quotedPlain argument.shown
  | .conflict first second =>
    "the argument ".toList ++ quotedPlain first.shown ++ " cannot be used with ".toList ++
      quotedPlain second.shown
  | .unknownCommand given => "unrecognized subcommand ".toList ++ quotedPlain given
  | .commandMissing =>
    quotedPlain programName ++ " requires a subcommand but one was not provided".toList
  | .inputMissing => "the following required arguments were not provided:".toList

inductive NoRun where
  | wrong (error : UsageError)
  | version
  | help (level : CommandLevel)
  | nothingGiven

/-! ## Help -/

/-- What the program does, in one line. -/
def programPurpose : Text :=
  "Generate constant tables and enums from a pipe-delimited record file".toList

/-- What a command does, in one line. -/
def Command.purpose : Command → Text
  | .generate => "Generate constant tables and the combined enum from a record file".toList
  | .languages => "List the supported target languages".toList

def Argument.helpLine (a : Argument) : Text :=
  "  ".toList ++ (match a.letter? with
    | some c => ['-', c, ',', ' ']
    | none => Text.filler ' ' 4) ++ a.shown

/-- The line that shows how a level is used. -/
def usageLine (level : CommandLevel) : Text :=
  "Usage: ".toList ++ programName ++ match level with
    | none => " [OPTIONS] <COMMAND>".toList
    | some c =>
      ' ' :: c.word ++ " [OPTIONS]".toList ++ match Argument.plainOfLevel? level with
        | some a => ' ' :: a.shown
        | none => []

def commandLines (level : CommandLevel) : List Text :=
  match level with
  | some _ => []
  | none =>
    ["Commands:".toList] ++
      [Command.generate, .languages].map (fun c =>
        "  ".toList ++ c.word ++ Text.filler ' ' (11 - c.word.length) ++ c.purpose) ++ [[]]

def helpText (level : CommandLevel) : Text :=
  let purpose := match level with
    | none => programPurpose
    | some c => c.purpose
  Text.ofLines <|
    [purpose, [], usageLine level, []] ++ commandLines level ++
      "Options:".toList :: (Argument.ofLevel level).map Argument.helpLine

end ErrorCatalog
