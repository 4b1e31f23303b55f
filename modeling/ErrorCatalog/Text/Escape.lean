import ErrorCatalog.Text.Width

/-!
# `ErrorCatalog/Text/Escape.lean` — escape sequences in a text

A text that is shown on a terminal may hold escape sequences, which take no column and may change
how everything after them is drawn. Two questions are asked about them here, and they are answered
by two grammars:

* what is left when all sequences are taken out (`Text.withoutEscapes`) — by the general forms of
  control sequences, of operating system commands, and of the other sequences;
* whether the text ends with the terminal changed (`Text.isLeftPainted`) — by the narrower forms of
  those sequences that paint, which may also start with the one-character introducer U+009B.
-/

set_option autoImplicit false

namespace ErrorCatalog

/-! ## 1. Taking sequences out -/

/-- The character that starts every sequence. -/
def escape : Char := '\x1b'

/-- Whether the code point of a character is in an interval, ends included. -/
def isBetween (first last : Nat) (c : Char) : Bool := first ≤ c.toNat && c.toNat ≤ last

/-- What follows a control sequence, given what follows its introducer: parameters, then
intermediates, then one final character. -/
def afterControl? (t : Text) : Option Text :=
  match (t.dropWhile (isBetween 0x30 0x3F)).dropWhile (isBetween 0x20 0x2F) with
  | c :: rest => if isBetween 0x40 0x7E c then some rest else none
  | [] => none

/-- What follows a command, given what follows its introducer. A bell ends it, or an escape with a
backslash. -/
def afterCommand? : Text → Option Text
  | [] => none
  | c :: rest =>
    if c = '\x07' then some rest
    else
      match rest with
      | d :: others => if c = escape ∧ d = '\\' then some others else afterCommand? rest
      | [] => none

/-- What follows a sequence of another kind, given what follows its escape: intermediates, then one
final character. -/
def afterOther? (t : Text) : Option Text :=
  match t.dropWhile (isBetween 0x20 0x2F) with
  | c :: rest => if isBetween 0x30 0x7E c then some rest else none
  | [] => none

/-- What follows a sequence, given what follows its escape. -/
def afterSequence? (t : Text) : Option Text :=
  match t with
  | '[' :: rest => (afterControl? rest).or (afterOther? t)
  | ']' :: rest => (afterCommand? rest).or (afterOther? t)
  | _ => afterOther? t

/-- The number of characters of the sequence at the start of a text; zero if there is none. -/
def sequenceLength (t : Text) : Nat :=
  match t with
  | c :: rest =>
    if c = escape then
      match afterSequence? rest with
      | some others => t.length - others.length
      | none => 0
    else 0
  | [] => 0

/-- A text without its sequences, given how many characters of a sequence are still to come. -/
def Text.dropSequences : Nat → Text → Text
  | _, [] => []
  | n + 1, _ :: rest => dropSequences n rest
  | 0, c :: rest =>
    match sequenceLength (c :: rest) with
    | 0 => c :: dropSequences 0 rest
    | n + 1 => dropSequences n rest

def Text.withoutEscapes (t : Text) : Text := Text.dropSequences 0 t

/-! ## 2. Finding what paints -/

/-- How far a painting sequence has been read. -/
inductive PaintState where
  /-- The introducer. -/
  | opening
  /-- A parenthesis directly after the introducer. -/
  | charset
  /-- A parenthesis and a digit up to two. This is a whole sequence. -/
  | charsetChosen
  /-- A bracket or another mark. -/
  | separated
  | number (digits : Nat)
  /-- A number of five digits, the last of which is the end of the sequence. -/
  | longNumber
  | nextNumber
  /-- A final letter. -/
  | finished
deriving DecidableEq

namespace PaintState

/-- Whether what has been read is a whole sequence. -/
def isWhole : PaintState → Bool
  | .charsetChosen | .number _ | .longNumber | .finished => true
  | _ => false

def isFinal (c : Char) : Bool :=
  isBetween 'A'.toNat 'P'.toNat c || isBetween 'f'.toNat 'n'.toNat c ||
    c ∈ ['R', 'Z', 'c', 'q', 'r', 'y', '=', '>', '<']

/-- The state after a final letter, if one can come. -/
def finish? : PaintState → Option PaintState
  | .charsetChosen | .longNumber | .finished => none
  | _ => some .finished

def digit? (c : Char) : PaintState → Option PaintState
  | .opening | .separated | .nextNumber => some (.number 1)
  | .charset => some (if c.toNat ≤ '2'.toNat then .charsetChosen else .number 1)
  | .number digits => some (if digits < 4 then .number (digits + 1) else .longNumber)
  | _ => none

def mark? (c : Char) : PaintState → Option PaintState
  | .opening => some (if c = '(' ∨ c = ')' then .charset else .separated)
  | .charset | .separated => some .separated
  | .number _ | .nextNumber => if c = ';' then some .nextNumber else none
  | _ => none

def next? (s : PaintState) (c : Char) : Option PaintState :=
  if c.isDigit then s.digit? c
  else if c ∈ ['[', '(', ')', '#', ';', '?'] then s.mark? c
  else if isFinal c then s.finish?
  else none

end PaintState

/-- A painting sequence that is being read. Texts are kept with their last character first. -/
structure PaintReading where
  state : PaintState
  /-- Everything that has been read of it. -/
  read : Text
  /-- The longest whole sequence in that. -/
  whole : Option Text

namespace PaintReading

/-- What is being read after a character outside a sequence. -/
def start? (c : Char) : Option PaintReading :=
  if c = escape ∨ c = '\u009b' then some ⟨.opening, [c], none⟩ else none

def next? (r : PaintReading) (c : Char) : Option PaintReading :=
  (r.state.next? c).map fun state =>
    let read := c :: r.read
    ⟨state, read, if state.isWhole then some read else r.whole⟩

/-- The sequence that has been read, if there is one. -/
def found (r : PaintReading) : List Text := (r.whole.map List.reverse).toList

end PaintReading

/-- The painting sequences of a text, given what is being read. Each is as long as can be. -/
def paintingSequencesFrom : Option PaintReading → Text → List Text
  | none, [] => []
  | none, c :: rest => paintingSequencesFrom (PaintReading.start? c) rest
  | some r, [] => r.found
  | some r, c :: rest =>
    match r.next? c with
    | some next => paintingSequencesFrom (some next) rest
    | none => r.found ++ paintingSequencesFrom (PaintReading.start? c) rest

def Text.paintingSequences (t : Text) : List Text := paintingSequencesFrom none t

/-- The sequence that undoes all painting. -/
def resetSequence : Text := "\x1b[0m".toList

/-- Whether a text leaves the terminal painted: its last painting sequence is not the reset. -/
def Text.isLeftPainted (t : Text) : Bool :=
  match t.paintingSequences.getLast? with
  | some last => last != resetSequence
  | none => false

/-- A text that leaves the terminal as it was. -/
def Text.unpaintedAtEnd (t : Text) : Text := if t.isLeftPainted then t ++ resetSequence else t

/-- The columns of a text that may hold escape sequences. -/
def Text.shownColumns (t : Text) : Nat := t.withoutEscapes.columns

example : Text.shownColumns "\x1b[31mred\x1b[0m".toList = 3 ∧
    Text.isLeftPainted "\x1b[31mred\x1b[0m".toList = false ∧
    Text.isLeftPainted "\u009b31mred".toList = true := by decide +kernel

end ErrorCatalog
