import ErrorCatalog.Text.Pattern

/-!
# `ErrorCatalog/Text/PatternReading.lean` — patterns as text

The usual way to write a regular expression: characters stand for themselves, `.` for any other than
a line feed, brackets for a set; `*`, `+` and `?` repeat what is before them, and prefer fewer
rounds with another `?`; `|` separates alternatives, parentheses group them; `^` and `$` are the two
ends of the text. A backslash takes the meaning from a mark, or names a class or a character.

A text is first cut into tokens, which need no nesting, and then the tokens are put together with a
stack of open groups. Counted repetitions, word boundaries, flags, and sets made from other sets are
not patterns.
-/

set_option autoImplicit false

namespace ErrorCatalog

/-! ## 1. Tokens -/

/-- The smallest parts of a written pattern. -/
inductive PatternToken where
  | piece (p : Pattern)
  | opening
  | closing
  | bar
  /-- Repeats what is before it: at least once or not, at most once or not. -/
  | repetition (isNeeded isSingle isGreedy : Bool)

/-- The item that a letter after a backslash names: a class, or everything outside it. -/
def namedItem? : Char → Option CharItem
  | 'd' => some { kind := .digit }
  | 'D' => some { kind := .digit, isInverted := true }
  | 'w' => some { kind := .word }
  | 'W' => some { kind := .word, isInverted := true }
  | 's' => some { kind := .blank }
  | 'S' => some { kind := .blank, isInverted := true }
  | _ => none

/-- The character that a letter after a backslash names. -/
def namedChar? : Char → Option Char
  | 'a' => some '\x07'
  | 'f' => some '\x0c'
  | 'n' => some '\n'
  | 'r' => some '\r'
  | 't' => some '\t'
  | 'v' => some '\x0b'
  | _ => none

/-- The number of hexadecimal digits after a letter that introduces a code point. -/
def codePointDigits? : Char → Option Nat
  | 'x' => some 2
  | 'u' => some 4
  | 'U' => some 8
  | _ => none

/-- Whether a backslash before a character makes it stand for itself. -/
def isEscapable (c : Char) : Bool := c.toNat < 0x80 && !c.isAlphanum && c != '<' && c != '>'

def charAt? (codePoint : Nat) : Option Char :=
  if codePoint.isValidChar then some (Char.ofNat codePoint) else none

/-- The character written after a backslash, and what follows it. -/
def escapedChar? : Text → Option (Char × Text)
  | [] => none
  | c :: rest =>
    if isEscapable c then some (c, rest)
    else
      match codePointDigits? c with
      | none => (namedChar? c).map fun d => (d, rest)
      | some count => do
        let digits ← (rest.take count).mapM Text.hexDigit?
        if digits.length = count then
          let d ← charAt? (digits.foldl (fun n d => 16 * n + d) 0)
          return (d, rest.drop count)
        else none

/-- The character or class at the start of the inside of brackets, and what follows it. -/
def setItem? : Text → Option (CharItem × Text)
  | [] => none
  | '[' :: _ => none
  | '\\' :: c :: rest =>
    match namedItem? c with
    | some item => some (item, rest)
    | none => (escapedChar? (c :: rest)).map fun p => (.one p.1, p.2)
  | c :: rest =>
    if c ∈ ['&', '-', '~'] ∧ rest.head? = some c then none else some (.one c, rest)

def CharItem.upTo? (first last : CharItem) : Option CharItem :=
  match first, last with
  | ⟨.range a _, false⟩, ⟨.range b _, false⟩ =>
    if a ≤ b then some { kind := .range a b } else none
  | _, _ => none

/-- The item or the interval of items at the start of the inside of brackets, and what follows it. -/
def setMember? (t : Text) : Option (CharItem × Text) := do
  let (first, rest) ← setItem? t
  match rest with
  | '-' :: ']' :: _ => return (first, rest)
  | '-' :: '-' :: _ => none
  | '-' :: others =>
    let (last, rest) ← setItem? others
    return (← first.upTo? last, rest)
  | _ => return (first, rest)

/-- The items at the start of the inside of brackets, and what follows the closing one. The first
argument is a bound for the number of items. -/
def setItems? : Nat → Text → Option (List CharItem × Text)
  | 0, _ => none
  | _ + 1, ']' :: rest => some ([], rest)
  | fuel + 1, t => do
    let (item, rest) ← setMember? t
    let (items, rest) ← setItems? fuel rest
    return (item :: items, rest)

/-- The set whose inside starts here, and what follows the closing bracket. A closing bracket that
comes first stands for itself, and so does a dash. -/
def bracketSet? (t : Text) : Option (CharSet × Text) :=
  let isInverted := t.head? == some '^'
  let inside := if isInverted then t.drop 1 else t
  let dashes := inside.takeWhile (· == '-')
  let afterDashes := inside.dropWhile (· == '-')
  let literal := if dashes.isEmpty && afterDashes.head? == some ']' then [']'] else dashes
  let rest := if dashes.isEmpty then inside.drop literal.length else afterDashes
  (setItems? (rest.length + 1) rest).map fun (items, rest) =>
    (⟨literal.map .one ++ items, isInverted⟩, rest)

def repetition (isNeeded isSingle : Bool) (t : Text) : PatternToken × Text :=
  match t with
  | '?' :: rest => (.repetition isNeeded isSingle false, rest)
  | _ => (.repetition isNeeded isSingle true, t)

/-- A group that opens with a question mark: it has a name, or is not to be remembered. -/
def markedGroup? (t : Text) : Option (PatternToken × Text) :=
  let named := fun (rest : Text) =>
    match rest.dropWhile (· ≠ '>') with
    | _ :: others =>
      let name := rest.takeWhile (· ≠ '>')
      if name.head?.any (fun c => !c.isDigit) && name.all (fun c => isAlphanumeric c || c == '_') then
        some (PatternToken.opening, others)
      else none
    | [] => none
  match t with
  | ':' :: rest => some (.opening, rest)
  | 'P' :: '<' :: rest => named rest
  | '<' :: rest => named rest
  | _ => none

/-- The token after a backslash, and what follows it. -/
def escapedToken? (t : Text) : Option (PatternToken × Text) :=
  match t with
  | 'A' :: rest => some (.piece .atStart, rest)
  | 'z' :: rest => some (.piece .atEnd, rest)
  | _ =>
    match (t.head?).bind namedItem? with
    | some item => some (.piece (.one { items := [item] }), t.drop 1)
    | none => (escapedChar? t).map fun p => (.piece (.one (.one p.1)), p.2)

/-- The first token of a text that is not empty, and what follows it. -/
def patternToken? (c : Char) (rest : Text) : Option (PatternToken × Text) :=
  match c with
  | '\\' => escapedToken? rest
  | '[' => (bracketSet? rest).map fun p => (.piece (.one p.1), p.2)
  | '(' =>
    match rest with
    | '?' :: others => markedGroup? others
    | _ => some (.opening, rest)
  | ')' => some (.closing, rest)
  | '|' => some (.bar, rest)
  | '*' => some (repetition false false rest)
  | '+' => some (repetition true false rest)
  | '?' => some (repetition false true rest)
  | '\x7b' => none
  | '.' => some (.piece (.one .anyInLine), rest)
  | '^' => some (.piece .atStart, rest)
  | '$' => some (.piece .atEnd, rest)
  | _ => some (.piece (.one (.one c)), rest)

/-- The tokens of a text. The first argument is a bound for their number. -/
def patternTokens? : Nat → Text → Option (List PatternToken)
  | _, [] => some []
  | 0, _ :: _ => none
  | fuel + 1, c :: rest => do
    let (token, rest) ← patternToken? c rest
    return token :: (← patternTokens? fuel rest)

/-! ## 2. Groups -/

/-- A group that is being read. Its alternatives and the pieces of the last one are kept in reverse
order. -/
structure OpenGroup where
  alternatives : List Pattern := []
  pieces : List Pattern := []

namespace OpenGroup

def push (g : OpenGroup) (p : Pattern) : OpenGroup := { g with pieces := p :: g.pieces }

/-- The group with its last alternative at an end. -/
def turn (g : OpenGroup) : OpenGroup := ⟨.inOrder g.pieces.reverse :: g.alternatives, []⟩

def pattern (g : OpenGroup) : Pattern := .anyOf g.turn.alternatives.reverse

end OpenGroup

def Pattern.repeated (isNeeded isSingle isGreedy : Bool) (p : Pattern) : Pattern :=
  if isSingle then if isGreedy then .either p .empty else .either .empty p
  else if isNeeded then .both p (.many p isGreedy)
  else .many p isGreedy

/-- The pattern that tokens make, given the group they are in and the groups around that. -/
def patternOfTokens? : OpenGroup → List OpenGroup → List PatternToken → Option Pattern
  | g, [], [] => some g.pattern
  | _, _ :: _, [] => none
  | g, outer, .piece p :: rest => patternOfTokens? (g.push p) outer rest
  | g, outer, .opening :: rest => patternOfTokens? {} (g :: outer) rest
  | _, [], .closing :: _ => none
  | g, around :: outer, .closing :: rest => patternOfTokens? (around.push g.pattern) outer rest
  | g, outer, .bar :: rest => patternOfTokens? g.turn outer rest
  | g, outer, .repetition isNeeded isSingle isGreedy :: rest =>
    match g.pieces with
    | [] => none
    | p :: before =>
      patternOfTokens? { g with pieces := p.repeated isNeeded isSingle isGreedy :: before } outer rest

/-- The pattern that a text is the written form of. -/
def Pattern.ofText? (t : Text) : Option Pattern :=
  (patternTokens? t.length t).bind (patternOfTokens? {} [])

example :
    (Pattern.ofText? "in".toList).map (·.matchesToEnd "in.txt".toList) = some false ∧
    (Pattern.ofText? "t.t".toList).map (·.matchesToEnd "in.txt".toList) = some true ∧
    (Pattern.ofText? "^[a-m]+\\.(csv|txt)$".toList).map (·.matchesToEnd "in.txt".toList) =
      some false ∧
    (Pattern.ofText? "[a-n]+?.*".toList).map (·.matchesToEnd "in.txt".toList) = some true ∧
    Pattern.ofText? "(".toList = none := by decide +kernel

end ErrorCatalog
