import ErrorCatalog.CommandLine.Usage

/-!
# `ErrorCatalog/CommandLine/Reading.lean` — reading a command line

A command line is read from left to right, word by word. Each level of commands is read on its own:
the word for a command ends the level above, and what follows belongs to the command.

An option whose value is a word of its own is *pending* until something else comes: its value is
looked at only then, or at the end. So of two errors the one further right can win, if it is about a
word that cannot be placed at all; everything else about a pending option comes first. After the
last word come the checks of the level as a whole, the command's before those of the level above.

After `--` every word is a plain one, even with dashes.
-/

set_option autoImplicit false

namespace ErrorCatalog

/-- What was given on a level: the values of each argument. An argument without values has an empty
text for each time it was given. The order is that of the last occurrences, where an argument that
takes more values stays in place. -/
abbrev Given := List (Argument × List Text)

def Given.values (g : Given) (a : Argument) : List Text := (g.lookup a).getD []

def Given.has (g : Given) (a : Argument) : Bool := g.any (·.1 == a)

/-- Reading stops with a reason if there is to be no run. -/
abbrev Read (α : Type) := Except NoRun α

def wrong {α : Type} (e : UsageError) : Read α := .error (.wrong e)

/-! ## 1. Taking in one argument -/

def checkValue (a : Argument) (value : Text) : Read Unit :=
  match a.valueRule with
  | .any => .ok ()
  | .notEmpty => if value = [] then wrong (.valueMissing a) else .ok ()
  | .oneOf words =>
    if value ∈ words then .ok ()
    else if value = [] then wrong (.valueMissing a)
    else wrong (.valueWrong value a)

def Given.extend (a : Argument) (value : Text) : Given → Given
  | [] => [(a, [value])]
  | p :: rest =>
    if p.1 = a then (a, p.2 ++ [value]) :: rest else p :: Given.extend a value rest

def Given.take (level : CommandLevel) (a : Argument) (value : Text) (g : Given) : Read Given :=
  match a.role with
  | .value =>
    if g.has a then wrong (.repeated a) else (checkValue a value).map fun () => g ++ [(a, [value])]
  | .values => (checkValue a value).map fun () => g.extend a value
  | .flag => if g.has a then wrong (.repeated a) else .ok (g ++ [(a, [[]])])
  | .count => .ok (g.filter (·.1 ≠ a) ++ [(a, [] :: g.values a)])
  | .request => .error (if a = .version then .version else .help level)

/-! ## 2. One word -/

/-- What was read of a level. -/
structure LevelState where
  given : Given := []
  /-- An argument that is not taken in yet, and its value if that was read. -/
  pending : Option (Argument × Option Text) := none
  /-- Whether the plain argument of the level was read. -/
  plainRead : Bool := false
  /-- Whether every word that follows is a plain one. -/
  plainOnly : Bool := false

namespace LevelState

/-- Takes in the pending argument. -/
def settle (level : CommandLevel) (s : LevelState) : Read LevelState :=
  match s.pending with
  | none => .ok s
  | some (a, none) => wrong (.valueMissing a)
  | some (a, some value) =>
    (s.given.take level a value).map fun given => { s with given, pending := none }

def waiting? (s : LevelState) : Option Argument :=
  match s.pending with
  | some (a, none) => some a
  | _ => none

def takeNow (level : CommandLevel) (a : Argument) (value : Text) (s : LevelState) :
    Read LevelState :=
  (s.settle level).bind fun s =>
    (s.given.take level a value).map fun given => { s with given }

def takeOption (level : CommandLevel) (a : Argument) (attached : Option Text) (s : LevelState) :
    Read LevelState :=
  match attached with
  | some value => s.takeNow level a value
  | none =>
    if a.takesValue then
      (s.settle level).map fun s => { s with pending := some (a, none) }
    else s.takeNow level a []

/-- Reads a word with two dashes, given without them. -/
def long (level : CommandLevel) (word : Text) (s : LevelState) : Read LevelState :=
  let name := word.takeWhile (· ≠ '=')
  let attached := match word.dropWhile (· ≠ '=') with
    | [] => none
    | _ :: value => some value
  match (Argument.ofLevel level).find? (·.longName == name) with
  | none => wrong (.unexpectedArgument ("--".toList ++ name))
  | some a =>
    match attached with
    | none => s.takeOption level a none
    | some value =>
      if a.takesValue then s.takeOption level a (some value) else wrong (.unexpectedValue value a)

/-- The value that follows the letter of an option in the same word. -/
def attachedValue? (rest : Text) : Option Text :=
  match rest with
  | [] => none
  | '=' :: value => some value
  | _ => some rest

/-- Reads a word with one dash, given without it: letters, the last of which may have a value. -/
def short (level : CommandLevel) : Text → LevelState → Read LevelState
  | [], s => .ok s
  | c :: rest, s =>
    match (Argument.ofLevel level).find? (·.letter? == some c) with
    | none => wrong (.unexpectedArgument ['-', c])
    | some a =>
      if a.takesValue then s.takeOption level a (attachedValue? rest)
      else (s.takeOption level a none).bind (short level rest)

def noPlace (level : CommandLevel) (word : Text) (s : LevelState) : UsageError :=
  match level with
  | some _ => .unexpectedArgument word
  | none =>
    if s.plainOnly ∧ ((Command.ofWord? word).isSome ∨ word = "help".toList) then
      .unexpectedArgument word
    else .unknownCommand word

def plain (level : CommandLevel) (word : Text) (s : LevelState) : Read LevelState :=
  match Argument.plainOfLevel? level with
  | none => wrong (s.noPlace level word)
  | some a =>
    if s.plainRead then wrong (s.noPlace level word)
    else
      (s.settle level).map fun s =>
        { s with pending := some (a, some word), plainRead := true }

def word (level : CommandLevel) (given : Text) (s : LevelState) : Read LevelState :=
  if s.plainOnly then s.plain level given
  else
    match given with
    | ['-', '-'] => .ok { s with plainOnly := true }
    | '-' :: '-' :: rest => s.long level rest
    | '-' :: c :: rest => s.short level (c :: rest)
    | _ =>
      match s.waiting? with
      | some a => .ok { s with pending := some (a, some given) }
      | none => s.plain level given

end LevelState

/-! ## 3. Levels -/

/-- Options that exclude each other. -/
def exclusive (a b : Argument) : Bool :=
  (a == .verbose && b == .quiet) || (a == .quiet && b == .verbose)

/-- Checks that no two given options exclude each other. -/
def checkConflicts : Given → Read Unit
  | [] => .ok ()
  | p :: rest =>
    match rest.find? fun q => exclusive p.1 q.1 with
    | some q => wrong (.conflict p.1 q.1)
    | none => checkConflicts rest

/-- Checks that the plain argument of a level was given. -/
def checkInput (level : CommandLevel) (g : Given) : Read Unit :=
  match Argument.plainOfLevel? level with
  | none => .ok ()
  | some a => if g.has a then .ok () else wrong .inputMissing

def readCommand (c : Command) (words : List Text) : Read Given := do
  let s ← words.foldlM (fun s w => LevelState.word (some c) w s) {}
  let s ← s.settle (some c)
  checkConflicts s.given
  checkInput (some c) s.given
  return s.given

/-- The answer to the words after `help`. -/
def helpFor : List Text → NoRun
  | [] => .help none
  | word :: rest =>
    match Command.ofWord? word, rest with
    | some c, [] => .help (some c)
    | some _, other :: _ => .wrong (.unknownCommand other)
    | none, [] => if word = "help".toList then .help none else .wrong (.unknownCommand word)
    | none, other :: _ =>
      .wrong (.unknownCommand (if word = "help".toList then other else word))

/-- A command with what was given on the level above and on its own. -/
structure CommandReading where
  command : Command
  above : Given
  own : Given

/-- The level above the commands at its end, where no command was given. -/
def endWithoutCommand (s : LevelState) : NoRun :=
  match s.settle none with
  | .error reason => reason
  | .ok s => if s.given = [] then .nothingGiven else .wrong .commandMissing

/-- Reads the words of the level above the commands, and then those of the command. -/
def readWords : LevelState → List Text → Read CommandReading
  | s, [] => .error (endWithoutCommand s)
  | s, word :: rest =>
    if s.plainOnly ∨ s.waiting?.isSome then (s.word none word).bind (readWords · rest)
    else if word = "help".toList then .error (helpFor rest)
    else
      match Command.ofWord? word with
      | none => (s.word none word).bind (readWords · rest)
      | some command =>
        (readCommand command rest).bind fun own =>
          (s.settle none).bind fun s =>
            (checkConflicts s.given).map fun () => ⟨command, s.given, own⟩

def readCommandLine (words : List Text) : Read CommandReading := readWords {} words

end ErrorCatalog
