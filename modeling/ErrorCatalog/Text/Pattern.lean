import ErrorCatalog.Text.Alphanumeric
import ErrorCatalog.Text.Blank

/-!
# `ErrorCatalog/Text/Pattern.lean` — patterns that texts may have

A pattern is a regular expression with a preference: of the ways in which it can match at a place,
an alternative on the left comes before one on the right, and a repetition says whether one more
round comes before none.

A pattern is run by its *heads*: in the order of preference, either that it may end here, or a set
for the next character and the pattern that is left after it. Matching keeps a list of what is left,
most preferred first, and never looks back.

`Pattern.matchesToEnd` looks for the first place where the pattern matches, takes the preferred
match there, and asks whether that one ends where the text ends. So `in` is not found in `in.txt`,
although `txt` is.
-/

set_option autoImplicit false

namespace ErrorCatalog

/-! ## 1. Sets of characters -/

inductive CharClass where
  /-- The characters from one code point to another. -/
  | range (first last : Nat)
  | digit
  /-- Letters, numbers and the underscore. -/
  | word
  | blank
deriving DecidableEq

def CharClass.holds (c : Char) : CharClass → Bool
  | .range first last => first ≤ c.toNat && c.toNat ≤ last
  | .digit => c.isDigit
  | .word => isAlphanumeric c || c == '_'
  | .blank => isBlank c

/-- A class, or everything outside it. -/
structure CharItem where
  kind : CharClass
  isInverted : Bool := false
deriving DecidableEq

/-- Everything in one of the items, or everything in none of them. -/
structure CharSet where
  items : List CharItem
  isInverted : Bool := false
deriving DecidableEq

def CharSet.holds (s : CharSet) (c : Char) : Bool :=
  (s.items.any fun item => item.kind.holds c != item.isInverted) != s.isInverted

def CharItem.one (c : Char) : CharItem := { kind := .range c.toNat c.toNat }

def CharSet.one (c : Char) : CharSet := { items := [.one c] }

def CharSet.anyInLine : CharSet := { items := [.one '\n'], isInverted := true }

/-! ## 2. Patterns -/

/-- A regular expression. -/
inductive Pattern where
  /-- Matches nothing at all, at every place. -/
  | empty
  | one (set : CharSet)
  | both (first second : Pattern)
  | either (preferred other : Pattern)
  /-- Any number of times; a greedy one prefers one more time to none. -/
  | many (p : Pattern) (isGreedy : Bool)
  | atStart
  | atEnd
deriving DecidableEq

inductive PatternHead where
  | ends
  | goesOn (set : CharSet) (rest : Pattern)
deriving DecidableEq

/-- What is left of a pattern after a character, if it can come. -/
def PatternHead.after? (c : Char) : PatternHead → Option Pattern
  | .ends => none
  | .goesOn set rest => if set.holds c then some rest else none

namespace Pattern

def andThen (p q : Pattern) : Pattern := if p = .empty then q else .both p q

/-- One pattern or another, or neither if there is none. -/
def anyOf : List Pattern → Pattern
  | [] => .empty
  | [p] => p
  | p :: rest => .either p (anyOf rest)

def inOrder (ps : List Pattern) : Pattern := ps.foldr andThen .empty

/-- The ways for a pattern to go on, most preferred first. A round of a repetition that takes no
character is the last one. -/
def heads (isStart isEnd : Bool) : Pattern → List PatternHead
  | .empty => [.ends]
  | .one set => [.goesOn set .empty]
  | .both p q =>
    (p.heads isStart isEnd).flatMap fun head =>
      match head with
      | .ends => q.heads isStart isEnd
      | .goesOn set rest => [.goesOn set (rest.andThen q)]
  | .either p q => p.heads isStart isEnd ++ q.heads isStart isEnd
  | .many p isGreedy =>
    let rounds := (p.heads isStart isEnd).map fun head =>
      match head with
      | .ends => .ends
      | .goesOn set rest => .goesOn set (rest.andThen (.many p isGreedy))
    if isGreedy then rounds ++ [.ends] else .ends :: rounds
  | .atStart => if isStart then [.ends] else []
  | .atEnd => if isEnd then [.ends] else []

/-! ## 3. Matching -/

/-- Looks for the pattern in the rest of a text, given what is left of the matches that began
earlier. While the search is open, a match can begin here; a match that ends closes it, and with it
everything that is less preferred. -/
def search (p : Pattern) (left : List Pattern) (isOpen isStart : Bool) : Text → Bool
  | [] =>
    (if isOpen then left ++ [p] else left).any fun q => (q.heads isStart true).contains .ends
  | c :: rest =>
    let heads := (if isOpen then left ++ [p] else left).flatMap (heads isStart false)
    let before := heads.takeWhile (· ≠ .ends)
    p.search (before.filterMap (·.after? c)).eraseDups (isOpen && before.length == heads.length)
      false rest

/-- Whether the first match of the pattern ends where the text ends. -/
def matchesToEnd (p : Pattern) (t : Text) : Bool := p.search [] true true t

end Pattern

end ErrorCatalog
