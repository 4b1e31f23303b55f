import ErrorCatalog.Artifact.Basic
import ErrorCatalog.Script

/-!
# `ErrorCatalog/Delivery.lean` — where artifacts go

Finished artifacts are delivered one by one, each to a place that its language and its file name
decide: below a directory per language. There are two kinds of destination.

* A *shelf* keeps contents in memory. Delivery to a shelf cannot fail.
* A *directory* is a root in the file system. The directory of the artifact is made first, then the
  file is written; the first step that fails ends the delivery, and what was done before stays.

A file name comes from the input and may hold slashes, so "below the directory of the language" is
where an artifact is *meant* to go; the path that results is an ordinary joined path. On a shelf
two places are the same when their paths have the same parts.
-/

set_option autoImplicit false

namespace ErrorCatalog

structure Delivered where
  name : Text
  language : Language
  location : Path
  /-- The size of the contents. -/
  bytes : Nat
deriving DecidableEq

def Artifact.deliveredTo (a : Artifact) (location : Path) : Delivered :=
  ⟨a.name, a.language, location, a.contents.byteSize⟩

/-! ## 1. The shelf -/

def shelfPath (l : Language) (fileName : Text) : Path := Path.join ⟨l.id⟩ fileName

/-- Contents by place; the parts of a path are the place. -/
structure Shelf where
  files : List (List PathPart × Text)

namespace Shelf

def empty : Shelf := ⟨[]⟩

/-- The number of places taken. -/
def size (s : Shelf) : Nat := s.files.length

def get? (s : Shelf) (l : Language) (fileName : Text) : Option Text :=
  s.files.lookup (shelfPath l fileName).parts

/-- The shelf with one more artifact, which replaces what was at its place. -/
def add (s : Shelf) (a : Artifact) : Shelf :=
  ⟨assignPair (shelfPath a.language a.fileName).parts a.contents s.files⟩

/-- The shelf with more artifacts, taken in order. -/
def addAll (s : Shelf) (artifacts : List Artifact) : Shelf := artifacts.foldl add s

end Shelf

def Artifact.shelved (a : Artifact) : Delivered := a.deliveredTo (shelfPath a.language a.fileName)

/-! ## 2. The directory -/

def Artifact.pathBelow (a : Artifact) (root : Path) : Path :=
  (root.join a.language.id).join a.fileName

/-- Why an artifact could not be delivered. -/
inductive DeliveryFault where
  | directory (path : Path) (cause : FileError)
  | file (name : Text) (path : Path) (cause : FileError)

/-- The artifact whose delivery failed, by its file name, and why. -/
structure DeliveryError where
  fileName : Text
  fault : DeliveryFault

def DeliveryFault.attempt : DeliveryFault → Text
  | .directory path _ => "create output directory ".toList ++ path.spelling
  | .file name path _ => "write ".toList ++ name ++ " to ".toList ++ path.spelling

/-- Why the attempt failed. -/
def DeliveryFault.cause : DeliveryFault → FileError
  | .directory _ cause => cause
  | .file _ _ cause => cause

/-- The wording of a delivery error, from the outside in. -/
def DeliveryError.chain (e : DeliveryError) : List Text :=
  ["emit ".toList ++ e.fileName, e.fault.attempt, e.fault.cause.message]

def writtenEvent (a : Artifact) (path : Path) : Event where
  target := "errgen_render::emit".toList
  level := .debug
  message := "artifact written".toList
  fields := [textField "artifact" a.name, textField "language" a.language.id,
    textField "path" path.spelling, countField "bytes" a.contents.byteSize]

/-- Writes the file of an artifact whose directory is there. -/
def writeArtifact (spans : List Span) (a : Artifact) (path : Path) :
    Script (Except DeliveryFault Delivered) :=
  .store path (Text.encode a.contents) fun outcome =>
    match outcome with
    | .error cause => .done (.error (.file a.name path cause))
    | .ok () => .report (.happened spans (writtenEvent a path)) (.done (.ok (a.deliveredTo path)))

def deliver (spans : List Span) (root : Path) (a : Artifact) :
    Script (Except DeliveryFault Delivered) :=
  let path := a.pathBelow root
  match path.parent? with
  | none => writeArtifact spans a path
  | some directory =>
    .makeDirectories directory fun outcome =>
      match outcome with
      | .error cause => .done (.error (.directory directory cause))
      | .ok () => writeArtifact spans a path

/-- Delivers artifacts below a root in order, up to the first that fails. -/
def deliverAll (spans : List Span) (root : Path) :
    List Artifact → Script (Except DeliveryError (List Delivered))
  | [] => .done (.ok [])
  | a :: rest =>
    (deliver spans root a).bind fun outcome =>
      match outcome with
      | .error fault => .done (.error ⟨a.fileName, fault⟩)
      | .ok first =>
        (deliverAll spans root rest).bind fun others => .done (others.map (first :: ·))

end ErrorCatalog
