import ErrorCatalog.Catalog.Basic
import ErrorCatalog.Catalog.Policy
import ErrorCatalog.File.Error
import ErrorCatalog.Source.Row

/-!
# `ErrorCatalog/Catalog/Build.lean` — from rows to a catalog

The first row names the attributes; every other row is a record, named after its first field. The
rows are taken one after the other, and the first one that a policy rejects ends the building. Of
the two policies the overflow policy is asked first.

Building also *notices* things: a row that is wider or narrower than the header, a record name that
was used before, the finished catalog. The notices are part of the result, in the order in which
they are made, and they are there also when the building fails. A collision is always reported
against the line where the name was used **first**, however often it has been used since; that
needs a memory of its own beside the catalog (`Progress.firstLines`), because the catalog forgets
which row a value came from.
-/

set_option autoImplicit false

namespace ErrorCatalog

/-- Why there is no catalog. -/
inductive LoadError where
  /-- The input cannot be read. -/
  | unavailable (source : Text) (cause : FileError)
  /-- The input has no row, so nothing names the attributes. -/
  | empty (source : Text)
  /-- Two rows have the same record name, and that is rejected. -/
  | collision (name : RecordName) (firstLine line : Nat)
  /-- A row has more fields than the header, and that is rejected. -/
  | overflow (line expected found : Nat)

def LoadError.message : LoadError → Text
  | .unavailable source cause => "input unavailable: ".toList ++ source ++ ": ".toList ++ cause.message
  | .empty source => "input is empty: ".toList ++ source ++ " has no header row".toList
  | .collision name firstLine line =>
    "record name ".toList ++ name.text ++ " on line ".toList ++ Text.ofNat line ++
      " collides with line ".toList ++ Text.ofNat firstLine
  | .overflow line expected found =>
    "row on line ".toList ++ Text.ofNat line ++ " has ".toList ++ Text.ofNat found ++
      " fields but the header has ".toList ++ Text.ofNat expected

/-- The wording of a load error, and of its cause if it has one. -/
def LoadError.chain (e : LoadError) : List Text :=
  match e with
  | .unavailable _ cause => [e.message, cause.message]
  | _ => [e.message]

/-- What is noticed while a catalog is built. -/
inductive Notice where
  | wideRow (line found expected : Nat)
  | narrowRow (line found expected : Nat)
  | collision (name : RecordName) (line firstLine : Nat)
  | built (attributes records : Nat)
deriving DecidableEq

/-- The catalog so far, and the line on which each name was used first. -/
structure Progress where
  catalog : Catalog
  firstLines : List (RecordName × Nat)

def checkWidth (policy : OverflowPolicy) (width : Nat) (row : Row) :
    List Notice × Except LoadError Unit :=
  let found := row.fields.length
  if width < found then
    match policy with
    | .ignore => ([.wideRow row.line found width], .ok ())
    | .reject => ([], .error (.overflow row.line width found))
  else if found < width then ([.narrowRow row.line found width], .ok ())
  else ([], .ok ())

/-- Stores a row that is not too wide. -/
def storeRow (policy : CollisionPolicy) (progress : Progress) (row : Row) :
    List Notice × Except LoadError Progress :=
  let values := Values.padded row.fields progress.catalog.width
  let name := RecordName.ofLabel (values.cell 0)
  let catalog := progress.catalog.insert name values
  match progress.firstLines.lookup name with
  | some firstLine =>
    match policy with
    | .overwrite => ([.collision name row.line firstLine], .ok { progress with catalog })
    | .reject => ([], .error (.collision name firstLine row.line))
  | none =>
    ([], .ok { catalog, firstLines := progress.firstLines ++ [(name, row.line)] })

def takeRow (policy : BuildPolicy) (progress : Progress) (row : Row) :
    List Notice × Except LoadError Progress :=
  match checkWidth policy.onOverflow progress.catalog.width row with
  | (notices, .error e) => (notices, .error e)
  | (notices, .ok ()) =>
    let (more, result) := storeRow policy.onCollision progress row
    (notices ++ more, result)

/-- Takes in rows one after the other, up to the first that is rejected. -/
def takeRows (policy : BuildPolicy) : Progress → List Row → List Notice × Except LoadError Progress
  | progress, [] => ([], .ok progress)
  | progress, row :: rows =>
    match takeRow policy progress row with
    | (notices, .error e) => (notices, .error e)
    | (notices, .ok next) =>
      let (more, result) := takeRows policy next rows
      (notices ++ more, result)

/-- Builds the catalog of a source, with everything noticed on the way. -/
def buildCatalog (policy : BuildPolicy) (source : Source) : List Notice × Except LoadError Catalog :=
  match source.rows with
  | [] => ([], .error (.empty source.name))
  | header :: rows =>
    match takeRows policy ⟨Catalog.empty header.fields, []⟩ rows with
    | (notices, .error e) => (notices, .error e)
    | (notices, .ok progress) =>
      let catalog := progress.catalog
      (notices ++ [.built catalog.width catalog.size], .ok catalog)

/-- The catalog of a source, without what was noticed. -/
def Source.catalog (policy : BuildPolicy) (source : Source) : Except LoadError Catalog :=
  (buildCatalog policy source).2

end ErrorCatalog
