import ErrorCatalog.File.Error
import ErrorCatalog.File.Path
import ErrorCatalog.Pairs

/-!
# `ErrorCatalog/File/Tree.lean` — a tree of files and directories

The part of the file system that a run can see: plain files, directories and the null device, no
links, no permissions. A node is found by its *location*, the list of names that lead to it from the root; a
path is followed from the root or from the working directory, one name after the other, and every
name but the last has to be a directory.

The tree is one list of locations with their nodes, not a recursive structure. Writing one file is
then visibly a change at one location, and "everything else is as before" needs no induction over a
tree. That the node above every node is a directory is not part of the type: the operations keep it
(they only add below an existing directory), and no reading depends on it.

The limits of the usual systems are part of the rules: a name has at most 255 bytes, a path has
fewer than 4096, and neither holds a NUL character.
-/

set_option autoImplicit false

namespace ErrorCatalog

/-- The names that lead to a node from the root. -/
abbrev Location := List Text

/-- What is found at a location. -/
inductive Node where
  | directory
  | file (contents : ByteArray)
  /-- The null device: always empty, whatever is written to it. -/
  | null

/-- Files and directories, and the working directory. -/
structure FileTree where
  nodes : List (Location × Node)
  home : Location

/-- Where a path leads. -/
inductive Destination where
  /-- A path that ends in `.` or `..`, or the root: a directory that exists. -/
  | existing (directory : Location)
  /-- A name in a directory that exists. The name itself may or may not be taken; a slash after it
  says that a directory is meant. -/
  | entry (directory : Location) (name : Text) (slashAfter : Bool)

namespace FileTree

/-! ## 1. Following a path -/

/-- The node at a location. The root is a directory. -/
def node? (t : FileTree) (l : Location) : Option Node :=
  if l = [] then some .directory else t.nodes.lookup l

def holdsDirectory (t : FileTree) (l : Location) : Bool :=
  match t.node? l with
  | some .directory => true
  | _ => false

def put (t : FileTree) (l : Location) (n : Node) : FileTree :=
  { t with nodes := assignPair l n t.nodes }

/-- The largest number of bytes in a name. -/
def maxNameBytes : Nat := 255

/-- The smallest number of bytes that is too many for a path. -/
def pathBytesLimit : Nat := 4096

/-- Goes from a directory into the one called `name`. -/
def enter (t : FileTree) (directory : Location) (name : Text) : Except FileError Location :=
  if name = ['.'] then .ok directory
  else if name = ['.', '.'] then .ok directory.dropLast
  else if maxNameBytes < name.byteSize then .error .nameTooLong
  else
    match t.node? (directory ++ [name]) with
    | none => .error .notFound
    | some .directory => .ok (directory ++ [name])
    | some _ => .error .notADirectory

/-- Goes from a directory through names, the last of which is not followed. -/
def follow (t : FileTree) (slashAfter : Bool) : Location → List Text → Except FileError Destination
  | directory, [] => .ok (.existing directory)
  | directory, [name] =>
    if name = ['.'] then .ok (.existing directory)
    else if name = ['.', '.'] then .ok (.existing directory.dropLast)
    else .ok (.entry directory name slashAfter)
  | directory, name :: rest =>
    match t.enter directory name with
    | .error e => .error e
    | .ok next => t.follow slashAfter next rest

def locate (t : FileTree) (p : Path) : Except FileError Destination :=
  if '\x00' ∈ p.spelling then .error .nulInPath
  else if p.spelling = [] then .error .notFound
  else if pathBytesLimit ≤ p.spelling.byteSize then .error .nameTooLong
  else
    t.follow (p.spelling.getLast?.any isSlash) (if p.isAbsolute then [] else t.home)
      ((Text.pieces isSlash p.spelling).filter (· ≠ []))

/-! ## 2. Operations -/

def isDirectory (t : FileTree) (p : Path) : Bool :=
  match t.locate p with
  | .ok (.existing _) => true
  | .ok (.entry directory name _) => t.holdsDirectory (directory ++ [name])
  | .error _ => false

def read (t : FileTree) (p : Path) : Except FileError ByteArray :=
  match t.locate p with
  | .error e => .error e
  | .ok (.existing _) => .error .isADirectory
  | .ok (.entry directory name slashAfter) =>
    if maxNameBytes < name.byteSize then .error .nameTooLong
    else
      match t.node? (directory ++ [name]) with
      | none => .error .notFound
      | some .directory => .error .isADirectory
      | some (.file contents) => if slashAfter then .error .notADirectory else .ok contents
      | some .null => if slashAfter then .error .notADirectory else .ok .empty

/-- Changes the contents of a file, which is created empty if there is none. -/
def modify (t : FileTree) (p : Path) (change : ByteArray → ByteArray) : Except FileError FileTree :=
  match t.locate p with
  | .error e => .error e
  | .ok (.existing _) => .error .isADirectory
  | .ok (.entry directory name slashAfter) =>
    if slashAfter then .error .isADirectory
    else if maxNameBytes < name.byteSize then .error .nameTooLong
    else
      match t.node? (directory ++ [name]) with
      | some .directory => .error .isADirectory
      | some .null => .ok t
      | some (.file contents) => .ok (t.put (directory ++ [name]) (.file (change contents)))
      | none => .ok (t.put (directory ++ [name]) (.file (change .empty)))

def write (t : FileTree) (p : Path) (contents : ByteArray) : Except FileError FileTree :=
  t.modify p fun _ => contents

/-- Adds to the end of a file. -/
def append (t : FileTree) (p : Path) (more : ByteArray) : Except FileError FileTree :=
  t.modify p (· ++ more)

/-- Makes one directory, in a directory that exists. -/
def makeDirectory (t : FileTree) (p : Path) : Except FileError FileTree :=
  match t.locate p with
  | .error e => .error e
  | .ok (.existing _) => .error .alreadyExists
  | .ok (.entry directory name _) =>
    if maxNameBytes < name.byteSize then .error .nameTooLong
    else
      match t.node? (directory ++ [name]) with
      | some _ => .error .alreadyExists
      | none => .ok (t.put (directory ++ [name]) .directory)

/-- Makes one directory unless it is there. -/
def ensureDirectory (t : FileTree) (p : Path) : Except FileError FileTree :=
  match t.makeDirectory p with
  | .ok next => .ok next
  | .error e => if t.isDirectory p then .ok t else .error e

/-- Makes the first of the paths, after making what is missing above it; the paths are a directory
and those above it, in this order. What was made stays when a later step fails. -/
def ensureChain (t : FileTree) : List Path → Except FileError Unit × FileTree
  | [] => (.ok (), t)
  | p :: above =>
    match t.ensureDirectory p with
    | .ok next => (.ok (), next)
    | .error .notFound =>
      match t.ensureChain above with
      | (.error e, next) => (.error e, next)
      | (.ok (), next) =>
        match next.ensureDirectory p with
        | .ok last => (.ok (), last)
        | .error e => (.error e, next)
    | .error e => (.error e, t)

/-- Makes a directory and everything missing above it. -/
def makeDirectories (t : FileTree) (p : Path) : Except FileError Unit × FileTree :=
  t.ensureChain p.selfAndAncestors

/-! ## 3. The whole tree -/

/-- The null device and the directory it is in. -/
def devices : List (Location × Node) :=
  [(["dev".toList], .directory), (["dev".toList, "null".toList], .null)]

/-- A tree with nothing in it but the working directory with what is above it, and the null
device. -/
def fresh (home : Location) : FileTree :=
  ⟨((List.range home.length).map fun n => (home.take (n + 1), .directory)) ++ devices, home⟩

/-- The nodes below the working directory, with the names that lead to them from there. -/
def belowHome (t : FileTree) : List (Location × Node) :=
  t.nodes.filterMap fun (l, n) =>
    if t.home.isPrefixOf l ∧ t.home.length < l.length then some (l.drop t.home.length, n) else none

end FileTree

end ErrorCatalog
