import ErrorCatalog.Text

/-!
# `ErrorCatalog/File/Path.lean` — paths

A path is kept as it is spelled, because that is how it is printed. What it *means* is its list of
parts: repeated slashes, a trailing slash and a `.` that is not in front do not matter, `..` does.
Two paths are the same place in this sense when their parts are equal; nothing is looked up.

Joining follows the usual rule that an absolute path on the right wins: it replaces the left one.
`parent?` cuts off the last part, and everything after the part before it.
-/

set_option autoImplicit false

namespace ErrorCatalog

structure Path where
  spelling : Text
deriving DecidableEq

inductive PathPart where
  /-- The slash an absolute path starts with. -/
  | root
  /-- The `.` a relative path starts with. -/
  | here
  /-- A `..`. -/
  | up
  | name (text : Text)
deriving DecidableEq

/-- Whether a character separates the parts of a path. -/
def isSlash (c : Char) : Bool := c == '/'

namespace Path

/-- A path given by its spelling as a literal. -/
def ofString (s : String) : Path := ⟨s.toList⟩

/-- What a piece between two slashes contributes, unless it stands in front. -/
def innerPart? (piece : Text) : Option PathPart :=
  if piece = [] ∨ piece = ['.'] then none
  else if piece = ['.', '.'] then some .up
  else some (.name piece)

/-- Whether a path starts at the root. -/
def isAbsolute (p : Path) : Bool :=
  match p.spelling with
  | [] => false
  | c :: _ => isSlash c

/-- The root slash or the leading `.` of a path, and what is left after it. -/
def lead (p : Path) : Text × Text :=
  match p.spelling with
  | '/' :: rest => (['/'], rest)
  | ['.'] => (['.'], [])
  | '.' :: '/' :: rest => (['.'], '/' :: rest)
  | spelling => ([], spelling)

def parts (p : Path) : List PathPart :=
  let (front, body) := p.lead
  (if front = ['/'] then [.root] else if front = ['.'] then [.here] else []) ++
    (Text.pieces isSlash body).filterMap innerPart?

/-- The path `q` seen from `p`: `q` itself if it is absolute. -/
def join (p : Path) (q : Text) : Path :=
  if isAbsolute ⟨q⟩ then ⟨q⟩
  else
    match p.spelling.getLast? with
    | none => ⟨q⟩
    | some c => if isSlash c then ⟨p.spelling ++ q⟩ else ⟨p.spelling ++ '/' :: q⟩

/-- The last part, if it is a name. -/
def fileName? (p : Path) : Option Text :=
  match p.parts.getLast? with
  | some (.name text) => some text
  | _ => none

/-- Pieces without those at the end that contribute no part. -/
def trimmedPieces (pieces : List Text) : List Text :=
  (pieces.reverse.dropWhile fun piece => (innerPart? piece).isNone).reverse

/-- The path without its last part; `none` if it has no part, or only the root. -/
def parent? (p : Path) : Option Path :=
  let (front, body) := p.lead
  match trimmedPieces (Text.pieces isSlash body) with
  | [] => if front = ['.'] then some ⟨[]⟩ else none
  | pieces => some ⟨front ++ Text.joined ['/'] (trimmedPieces pieces.dropLast)⟩

/-- A path and what is above it, up to `bound` paths, without the empty path and the root. -/
def chainUp : Nat → Path → List Path
  | 0, _ => []
  | bound + 1, p =>
    match p.parent? with
    | none => []
    | some above => p :: chainUp bound above

/-- A path and what is above it, the path itself first, without the empty path and the root. -/
def selfAndAncestors (p : Path) : List Path := chainUp p.spelling.length p

end Path

example : Path.parts (.ofString "./a//b/./../c/") =
    [.here, .name ['a'], .name ['b'], .up, .name ['c']] := by decide

example : (Path.ofString "a//b/./c").parent? = some (.ofString "a//b") ∧
    (Path.ofString "./x").parent? = some (.ofString ".") ∧
    (Path.ofString "x").parent? = some (.ofString "") ∧ (Path.ofString "/").parent? = none := by decide

example : Path.selfAndAncestors (.ofString "a/../b/go") =
    [.ofString "a/../b/go", .ofString "a/../b", .ofString "a/..", .ofString "a"] := by decide

example : Path.join (.ofString "out/") "/abs.go".toList = .ofString "/abs.go" := by decide

end ErrorCatalog
