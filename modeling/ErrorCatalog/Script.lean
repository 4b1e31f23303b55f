import ErrorCatalog.File.Tree
import ErrorCatalog.Log.Filter
import ErrorCatalog.Log.Layout

/-!
# `ErrorCatalog/Script.lean` — what a run does to the world

A run reads its input, makes directories, writes files and reports to its log. A `Script` is such a
run as a value: the next action, and the rest of the run as a function of the action's outcome.
Nothing happens when a script is built. It happens when the script is carried out, which can be done
in two ways — here on a `FileTree`, as a function, and in the program on the real file system.

Everything that is proved about a run is proved about its script carried out on a tree. The other
way of carrying out a script decides nothing: it does action by action what the script says.
-/

set_option autoImplicit false

namespace ErrorCatalog

/-- A run that ends with a result. -/
inductive Script (α : Type) where
  | done (result : α)
  | report (entry : Entry) (next : Script α)
  | fetch (path : Path) (next : Except FileError ByteArray → Script α)
  /-- Reads the standard input to its end. -/
  | fetchInput (next : ByteArray → Script α)
  /-- Makes a directory and everything missing above it. -/
  | makeDirectories (path : Path) (next : Except FileError Unit → Script α)
  | store (path : Path) (contents : ByteArray) (next : Except FileError Unit → Script α)
  /-- Opens a file for adding to its end, and creates it if there is none. -/
  | touch (path : Path) (next : Except FileError Unit → Script α)

namespace Script

variable {α β : Type}

/-! ## 1. Scripts one after the other -/

/-- A script, and then another that depends on its result. -/
def bind : Script α → (α → Script β) → Script β
  | .done result, f => f result
  | .report entry next, f => .report entry (next.bind f)
  | .fetch path next, f => .fetch path fun r => (next r).bind f
  | .fetchInput next, f => .fetchInput fun r => (next r).bind f
  | .makeDirectories path next, f => .makeDirectories path fun r => (next r).bind f
  | .store path contents next, f => .store path contents fun r => (next r).bind f
  | .touch path next, f => .touch path fun r => (next r).bind f

def reportAll : List Entry → Script Unit
  | [] => .done ()
  | entry :: rest => .report entry (reportAll rest)

def contentsOf (path : Path) : Script (Except FileError ByteArray) := .fetch path .done

/-- Reads the standard input. -/
def wholeInput : Script ByteArray := .fetchInput .done

/-! ## 2. Carrying out a script on a tree -/

/-- Where log lines go, which entries are shown, and how. -/
structure Logger where
  filter : Filter
  style : LogStyle
  /-- The file that lines are added to; `none` is the standard error stream. -/
  file : Option Path := none

/-- The logger that shows nothing. -/
def Logger.silent : Logger := { filter := ⟨[]⟩, style := {} }

/-- The log line for an entry, with its line feed; `none` if it is not shown. -/
def Logger.line? (logger : Logger) (clock : Clock) (entry : Entry) : Option Text :=
  ((logger.filter.apply entry).bind (logger.style.line? clock)).map (· ++ ['\n'])

/-- What a script finds and leaves: the files, and what was written to the standard error stream. -/
structure World where
  tree : FileTree
  errors : Text

/-- The world after a log entry. A log file that cannot be added to loses the line. -/
def World.log (w : World) (logger : Logger) (clock : Clock) (entry : Entry) : World :=
  match logger.line? clock entry with
  | none => w
  | some line =>
    match logger.file with
    | none => { w with errors := w.errors ++ line }
    | some path =>
      match w.tree.append path (Text.encode line) with
      | .ok tree => { w with tree }
      | .error _ => w

/-- The outcome of changing a tree, and the tree after it. -/
def changed (before : FileTree) : Except FileError FileTree → Except FileError Unit × FileTree
  | .ok after => (.ok (), after)
  | .error e => (.error e, before)

/-- Carries out a script on a world. The clock stands still. -/
def run (logger : Logger) (clock : Clock) (input : ByteArray) : Script α → World → α × World
  | .done result, w => (result, w)
  | .report entry next, w => next.run logger clock input (w.log logger clock entry)
  | .fetch path next, w => (next (w.tree.read path)).run logger clock input w
  | .fetchInput next, w => (next input).run logger clock input w
  | .makeDirectories path next, w =>
    let (outcome, tree) := w.tree.makeDirectories path
    (next outcome).run logger clock input { w with tree }
  | .store path contents next, w =>
    let (outcome, tree) := changed w.tree (w.tree.write path contents)
    (next outcome).run logger clock input { w with tree }
  | .touch path next, w =>
    let (outcome, tree) := changed w.tree (w.tree.append path .empty)
    (next outcome).run logger clock input { w with tree }

/-- Carrying out one script after another is carrying out their sequence. -/
theorem run_bind (logger : Logger) (clock : Clock) (input : ByteArray) (s : Script α)
    (f : α → Script β) (w : World) :
    (s.bind f).run logger clock input w =
      (f (s.run logger clock input w).1).run logger clock input (s.run logger clock input w).2 := by
  induction s generalizing w with
  | done result => rfl
  | report entry next ih => exact ih _
  | fetch path next ih => exact ih _ _
  | fetchInput next ih => exact ih _ _
  | makeDirectories path next ih => exact ih _ _
  | store path contents next ih => exact ih _ _
  | touch path next ih => exact ih _ _

end Script

end ErrorCatalog
