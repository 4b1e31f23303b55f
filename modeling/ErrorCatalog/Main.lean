import ErrorCatalog.Log.Clock
import ErrorCatalog.Number.Power
import ErrorCatalog.Program
import Std.Time.DateTime.Timestamp

/-!
# `ErrorCatalog/Main.lean` — the program on the real file system

The outermost layer. It finds the surroundings, asks the library for the job, and carries out the
job's script action by action. It decides nothing: each action is one operation of the system, with
its outcome handed back to the script. Making a directory with everything above it is the one
action that takes several operations, in the order that `FileTree.makeDirectories` lays down.
-/

set_option autoImplicit false

namespace ErrorCatalog

namespace Main

/-! ## 1. Operations -/

/-- The number and the wording of a cause that the system gives. -/
def systemCause : IO.Error → Nat × String
  | .alreadyExists _ code details => (code.toNat, details)
  | .otherError code details => (code.toNat, details)
  | .resourceBusy code details => (code.toNat, details)
  | .resourceVanished code details => (code.toNat, details)
  | .unsupportedOperation code details => (code.toNat, details)
  | .hardwareFault code details => (code.toNat, details)
  | .unsatisfiedConstraints code details => (code.toNat, details)
  | .illegalOperation code details => (code.toNat, details)
  | .protocolError code details => (code.toNat, details)
  | .timeExpired code details => (code.toNat, details)
  | .interrupted _ code details => (code.toNat, details)
  | .noFileOrDirectory _ code details => (code.toNat, details)
  | .invalidArgument _ code details => (code.toNat, details)
  | .permissionDenied _ code details => (code.toNat, details)
  | .resourceExhausted _ code details => (code.toNat, details)
  | .inappropriateType _ code details => (code.toNat, details)
  | .noSuchThing _ code details => (code.toNat, details)
  | .unexpectedEof => (0, "end of file")
  | .userError details => (0, details)

/-- The number of a cause. Some operations give it with a minus, which 32 bits wrap around. -/
def causeNumber (code : Nat) : Nat := if code < twoTo 31 then code else twoTo 32 - code

/-- The cause that an operation of the system failed for. -/
def causeOf (e : IO.Error) : FileError :=
  let (code, details) := systemCause e
  match causeNumber code with
  | 2 => .notFound
  | 17 => .alreadyExists
  | 20 => .notADirectory
  | 21 => .isADirectory
  | 36 => .nameTooLong
  | number => .system number details.capitalize.toList

def attempt {α : Type} (path : Path) (operation : String → IO α) : IO (Except FileError α) := do
  if '\x00' ∈ path.spelling then return .error .nulInPath
  try return .ok (← operation (String.ofList path.spelling))
  catch e => return .error (causeOf e)

/-- Makes a directory unless it is there. -/
def ensureDirectory (path : Path) : IO (Except FileError Unit) := do
  match ← attempt path fun name => IO.FS.createDir name with
  | .ok () => return .ok ()
  | .error cause =>
    match ← attempt path fun name => do (← IO.FS.realPath name).isDir with
    | .ok true => return .ok ()
    | _ => return .error cause

/-- Makes the first of the paths, after making what is missing above it. -/
def ensureChain : List Path → IO (Except FileError Unit)
  | [] => return .ok ()
  | path :: above => do
    match ← ensureDirectory path with
    | .error .notFound =>
      match ← ensureChain above with
      | .ok () => ensureDirectory path
      | failed => return failed
    | outcome => return outcome

/-- Adds to the end of a file. -/
def appendTo (path : Path) (bytes : ByteArray) : IO (Except FileError Unit) :=
  attempt path fun name => do (← IO.FS.Handle.mk name .append).write bytes

/-- Everything that is left of the standard input. -/
partial def restOfInput (input : IO.FS.Stream) (before : ByteArray) : IO ByteArray := do
  let chunk ← input.read 65536
  if chunk.isEmpty then return before else restOfInput input (before ++ chunk)

/-! ## 2. The log -/

/-- What the clock says, given when the innermost span began. -/
def readClock (began : Nat) : IO Clock := do
  let now := (← Std.Time.Timestamp.now).val
  let spent := (← IO.monoNanosNow) - began
  let microseconds := now.second.val.toNat * 1000000 + now.nano.val.toNat / 1000
  return ⟨timestampText microseconds, spent / 1000000, durationText spent, durationText 0⟩

def writeEntry (logger : Script.Logger) (began : Nat) (entry : Entry) : IO Unit := do
  match logger.line? (← readClock began) entry with
  | none => return ()
  | some line =>
    match logger.file with
    | none => (← IO.getStderr).write (Text.encode line)
    | some path => let _ ← appendTo path (Text.encode line)

/-- The times at which the open spans began, after an entry. -/
def spanTimes (now : Nat) (times : List Nat) : Entry → List Nat
  | .opened _ _ => now :: times
  | .happened _ _ => times
  | .closed _ _ => times.tail

/-! ## 3. Scripts -/

/-- Carries out a script. The times are those at which the open spans began, innermost first. -/
def perform {α : Type} (logger : Script.Logger) : List Nat → Script α → IO α
  | _, .done result => return result
  | times, .report entry next => do
    let now ← IO.monoNanosNow
    writeEntry logger (times.head?.getD now) entry
    perform logger (spanTimes now times entry) next
  | times, .fetch path next => do
    perform logger times (next (← attempt path fun name => IO.FS.readBinFile name))
  | times, .fetchInput next => do
    perform logger times (next (← restOfInput (← IO.getStdin) .empty))
  | times, .makeDirectories path next => do
    perform logger times (next (← ensureChain path.selfAndAncestors))
  | times, .store path contents next => do
    perform logger times (next (← attempt path fun name => IO.FS.writeBinFile name contents))
  | times, .touch path next => do perform logger times (next (← appendTo path .empty))

end Main

end ErrorCatalog

open ErrorCatalog in
/-- The program. -/
def main (args : List String) : IO UInt32 := do
  let around : Surroundings :=
    { isTerminal := ← (← IO.getStderr).isTty
      logVariable := (← IO.getEnv logVariableName).map String.toList }
  let job := Job.ofWords around (args.map String.toList)
  let exit ← Main.perform job.logger [] job.script
  (← IO.getStdout).write (Text.encode exit.output)
  (← IO.getStderr).write (Text.encode exit.errors)
  return UInt32.ofNat exit.code
