import ErrorCatalog.Text

/-!
# `ErrorCatalog/Text/Terminal.lean` — what a terminal prints of a text

A terminal does not print every character it is sent. An escape starts a sequence, which is obeyed;
other control characters are obeyed at once. `Text.printed` is what is left for the eye when a text
is sent from the start: a plain copy, fit for a file.

White space is printed even inside a control sequence, and then so is everything after it up to the
next control character, where the sequence goes on.
-/

set_option autoImplicit false

namespace ErrorCatalog

inductive TerminalState where
  | plain
  | escape
  /-- An escape and intermediate characters. -/
  | intermediate
  /-- A control sequence, which a letter ends. -/
  | control
  /-- A command, which a bell ends. -/
  | command
  /-- A string of another kind. -/
  | string
deriving DecidableEq

namespace TerminalState

/-- White space that is sent on to the screen. -/
def isSpacing (c : Char) : Bool := c ∈ ['\t', '\n', '\x0c', '\r']

def isVisible (c : Char) : Bool := 0x20 ≤ c.toNat && c.toNat ≠ 0x7F

def prints : TerminalState → Char → Bool
  | .plain, c => isVisible c || isSpacing c
  | .escape, c | .intermediate, c | .control, c => isSpacing c
  | .command, _ | .string, _ => false

def afterEscape (c : Char) : TerminalState :=
  if c = '[' then .control
  else if c = ']' then .command
  else if c ∈ ['P', 'X', '^', '_'] then .string
  else if 0x20 ≤ c.toNat ∧ c.toNat < 0x30 then .intermediate
  else if 0x30 ≤ c.toNat ∧ c.toNat < 0x7F then .plain
  else .escape

/-- Whether a character ends a string by one of the bytes it is encoded with. -/
def endsString (c : Char) : Bool := (Text.encode [c]).toList.contains 0x9C

/-- The state after a character. An escape starts a sequence in every state, and two control
characters end whatever is being read. -/
def next (s : TerminalState) (c : Char) : TerminalState :=
  if c = '\x1b' then .escape
  else if c = '\x18' ∨ c = '\x1a' then .plain
  else
    match s with
    | .plain => .plain
    | .escape => afterEscape c
    | .intermediate => if 0x30 ≤ c.toNat ∧ c.toNat < 0x7F then .plain else .intermediate
    | .control => if 0x40 ≤ c.toNat ∧ c.toNat < 0x7F then .plain else .control
    | .command => if c = '\x07' then .plain else .command
    | .string => if endsString c then .plain else .string

end TerminalState

/-- A terminal: what it is reading, and whether the last character was printed. -/
structure Terminal where
  state : TerminalState := .plain
  isPrinting : Bool := false

namespace Terminal

def prints (t : Terminal) (c : Char) : Bool :=
  if t.isPrinting then TerminalState.plain.prints c else t.state.prints c

/-- The terminal after a character. A printed one leaves the state as it is, unless it is not an
ASCII character. -/
def next (t : Terminal) (c : Char) : Terminal :=
  if !t.prints c then ⟨t.state.next c, false⟩
  else if c.toNat < 0x80 then ⟨t.state, true⟩
  else ⟨.plain, true⟩

def output : Terminal → Text → Text
  | _, [] => []
  | t, c :: rest => if t.prints c then c :: (t.next c).output rest else (t.next c).output rest

end Terminal

/-- What a terminal prints of a text that is sent from the start. -/
def Text.printed (t : Text) : Text := Terminal.output {} t

example : Text.printed "a\x1b[31mred\x1b[0m\x07b".toList = "aredb".toList := by decide +kernel

end ErrorCatalog
