import ErrorCatalog.Log.Entry
import ErrorCatalog.Text.Case
import ErrorCatalog.Text.PatternReading

/-!
# `ErrorCatalog/Log/Directive.lean` — one directive of a log filter

A directive says how much detail to let through, and for what: for targets that start with some
text, for what happens inside spans of some name, for what has a field of some name, or a field with
some value. Everything is optional, and one directive has one field at most:

    info
    errgen_ingest=debug
    errgen_cli[generate{dry_run=true}]=trace

A directive is read from left to right; `DirectivePlace` is where the reading is. Places are counted
in the directive without the blanks around it, but words are cut out of the directive as it was
given. So a blank after a word belongs to it, and a blank before a word shifts it.
-/

set_option autoImplicit false

namespace ErrorCatalog

/-! ## 1. Thresholds -/

/-- The most detailed level let through; `none` lets nothing through. -/
abbrev Threshold := Option Level

namespace Threshold

/-- How much detail a threshold lets through. -/
def rank (t : Threshold) : Nat :=
  match t with
  | none => 0
  | some most => most.rank

/-- Whether a threshold lets a level through. -/
def admits (t : Threshold) (l : Level) : Bool := l.rank ≤ t.rank

/-- The threshold that lets more detail through. -/
def max (t u : Threshold) : Threshold := if t.rank < u.rank then u else t

/-- The threshold that lets through what any of several does. -/
def maxOf (ts : List Threshold) : Threshold := ts.foldl max none

/-- The thresholds with their words, each at the place of its rank. -/
def words : List (Text × Threshold) :=
  [("off".toList, none), ("error".toList, some .error), ("warn".toList, some .warn),
   ("info".toList, some .info), ("debug".toList, some .debug), ("trace".toList, some .trace)]

def word : Threshold → Text
  | none => "off".toList
  | some l => l.label.map asciiLower

/-- The number that digits stand for. There may be a plus sign before them. -/
def number? (given : Text) : Option Nat :=
  let digits := if given.head? = some '+' then given.drop 1 else given
  if !digits.isEmpty && digits.all Char.isDigit then
    some (digits.foldl (fun n d => 10 * n + (d.toNat - '0'.toNat)) 0)
  else none

/-- The threshold a text names, by word in any case or by number. -/
def ofText? (given : Text) : Option Threshold :=
  match number? given with
  | some n => (words[n]?).map (·.2)
  | none => (words.find? fun p => p.1.sameIgnoringAsciiCase given).map (·.2)

end Threshold

example : Threshold.ofText? "Warn".toList = some (some .warn) ∧
    Threshold.ofText? "+005".toList = some (some .trace) ∧ Threshold.ofText? "6".toList = none := by
  decide

/-! ## 2. Fields -/

/-- What the value of a field should be. -/
inductive ValueTest where
  | flag (value : Bool)
  | count (value : Nat)
  /-- A number that no field has. -/
  | never
  /-- A text that a pattern matches up to its end. The pattern is kept as it was written, too. -/
  | pattern (written : Text) (p : Pattern)
deriving DecidableEq

def ValueTest.passes (v : FieldValue) : ValueTest → Bool
  | .flag value => v == .flag value
  | .count value => v == .count value
  | .never => false
  | .pattern _ p =>
    match v with
    | .text value => p.matchesToEnd value
    | _ => false

/-- A field that something should have, with the value that it should have, if that matters. -/
structure FieldTest where
  name : Text
  value : Option ValueTest := none
deriving DecidableEq

/-- Whether there is a field of the name among the given ones. -/
def FieldTest.isFound (t : FieldTest) (fields : List LogField) : Bool :=
  fields.any (·.name == t.name)

/-- Whether the field has the value that it should have. -/
def FieldTest.passes (t : FieldTest) (fields : List LogField) : Bool :=
  match t.value with
  | none => true
  | some test => fields.any fun f => f.name == t.name && test.passes f.value

/-! ## 3. Directives -/

structure Directive where
  target : Option Text := none
  span : Option Text := none
  field : Option FieldTest := none
  threshold : Threshold := some .trace
deriving DecidableEq

namespace Directive

def concerns (d : Directive) (target : Text) : Bool :=
  match d.target with
  | none => true
  | some start => start.isPrefixOf target

def testsValue (d : Directive) : Bool := (d.field.bind (·.value)).isSome

def looksAtSpans (d : Directive) : Bool := d.span.isSome || d.field.isSome

/-- Whether the directive looks at what is reported itself. -/
def looksAtEntries (d : Directive) : Bool := d.span.isNone && !d.testsValue

/-- Whether two directives are about the same things. The later one then counts. -/
def isAboutSame (d e : Directive) : Bool :=
  d.target == e.target && d.span == e.span && d.field == e.field

def concernsSpan (d : Directive) (s : Span) : Bool :=
  d.concerns s.target && d.span.all (· == s.name) && d.field.all (·.isFound s.fields)

def passesSpan (d : Directive) (s : Span) : Bool := d.field.all (·.passes s.fields)

/-- Whether the directive is about an event. The message is one of the event's fields. -/
def concernsEvent (d : Directive) (e : Event) : Bool :=
  d.concerns e.target &&
    d.field.all (·.isFound (textField "message" e.message :: e.fields))

/-- Which of two directives about one entry is more specific: the one with the longer target, then
the one with a field, then the one whose field has the later name. -/
def isMoreSpecific (d e : Directive) : Bool :=
  let size := fun (t : Option Text) => t.elim 0 (·.byteSize + 1)
  if size d.target ≠ size e.target then size e.target < size d.target
  else
    match d.field, e.field with
    | some t, some u => t.name != u.name && u.name.precedes t.name
    | some _, none => true
    | none, _ => false

end Directive

/-! ## 4. Reading a directive -/

/-- A text without its first bytes, if that cuts no character. -/
def Text.dropBytes? (count : Nat) : Text → Option Text
  | [] => if count = 0 then some [] else none
  | c :: rest =>
    if count = 0 then some (c :: rest)
    else if c.utf8Size ≤ count then dropBytes? (count - c.utf8Size) rest
    else none

/-- The first bytes of a text, if that cuts no character. -/
def Text.takeBytes? (count : Nat) : Text → Option Text
  | [] => if count = 0 then some [] else none
  | c :: rest =>
    if count = 0 then some []
    else if c.utf8Size ≤ count then (takeBytes? (count - c.utf8Size) rest).map (c :: ·)
    else none

/-- The bytes of a text from one place to another, if that cuts no character. -/
def Text.cut? (t : Text) (first last : Nat) : Option Text :=
  (t.dropBytes? first).bind (·.takeBytes? (last - first))

/-- Whether a text is written like an infinity or like what is not a number. -/
def isSpecialNumber (t : Text) : Bool :=
  ["inf", "infinity", "nan"].any fun w => Text.sameIgnoringAsciiCase w.toList t

/-- Whether a text is an exponent, or empty. -/
def isExponent (t : Text) : Bool :=
  match t with
  | [] => true
  | c :: rest =>
    let digits := if rest.head? = some '+' ∨ rest.head? = some '-' then rest.drop 1 else rest
    (c == 'e' || c == 'E') && !digits.isEmpty && digits.all Char.isDigit

/-- Whether a text is a decimal number without a sign, which needs no digits on one side of its
point. -/
def isDecimal (t : Text) : Bool :=
  let whole := t.takeWhile Char.isDigit
  let rest := t.dropWhile Char.isDigit
  let places := if rest.head? = some '.' then (rest.drop 1).takeWhile Char.isDigit else []
  let exponent := if rest.head? = some '.' then (rest.drop 1).dropWhile Char.isDigit else rest
  !(whole.isEmpty && places.isEmpty) && isExponent exponent

/-- Whether a text is written like a number. -/
def isNumber (t : Text) : Bool :=
  let unsigned := if t.head? = some '+' ∨ t.head? = some '-' then t.drop 1 else t
  isSpecialNumber unsigned || isDecimal unsigned

def maxFieldCount : Nat := 18446744073709551615

/-- The test that a text describes: a truth value, a number, or else a pattern. -/
def ValueTest.ofText? (t : Text) : Option ValueTest :=
  if t = "true".toList then some (.flag true)
  else if t = "false".toList then some (.flag false)
  else
    match (Threshold.number? t).filter (· ≤ maxFieldCount) with
    | some n => some (.count n)
    | none => if isNumber t then some .never else (Pattern.ofText? t).map (.pattern t)

/-- The test for a field: its name, or its name, an equals sign and its value. -/
def FieldTest.ofText? (t : Text) : Option FieldTest :=
  match Text.pieces (· == '=') t with
  | name :: value :: _ => (ValueTest.ofText? value).map fun test => { name, value := some test }
  | _ => some { name := t }

/-- Where the reading of a directive is, with the place where a word began. -/
inductive DirectivePlace where
  | atStart
  /-- In a word that is a target or a threshold. -/
  | inWord (first : Nat)
  | inSpan (first : Nat)
  | inField (first : Nat)
  /-- After a field, where the bracket around the span has to be closed. -/
  | afterField
  /-- After the closed bracket. -/
  | afterSpan
  | inThreshold (first : Nat)

structure DirectiveReading where
  directive : Directive := {}
  place : DirectivePlace := .atStart

def startsDirective (c : Char) : Bool := c ∈ ['-', ':', '_'] || isAlphanumeric c

/-- What has been read after one more character, which has the given place. -/
def DirectiveReading.next? (given : Text) (r : DirectiveReading) (place : Nat) (c : Char) :
    Option DirectiveReading :=
  let after := place + c.utf8Size
  let d := r.directive
  match r.place with
  | .atStart =>
    if c = '[' then some { r with place := .inSpan after }
    else if startsDirective c then some { r with place := .inWord place }
    else none
  | .inWord first =>
    if c = '=' then
      (given.cut? first place).map fun t => ⟨{ d with target := some t }, .inThreshold after⟩
    else if c = '[' then
      (given.cut? first place).map fun t => ⟨{ d with target := some t }, .inSpan after⟩
    else some r
  | .inSpan first =>
    if c = ']' then (given.cut? first place).map fun t => ⟨{ d with span := some t }, .afterSpan⟩
    else if c = '\x7b' then
      (given.cut? first place).map fun t =>
        ⟨{ d with span := if t = [] then none else some t }, .inField after⟩
    else some r
  | .inField first =>
    if c = '\x7d' then do
      let t ← given.cut? first place
      if t = [] then none
      else
        let field ← FieldTest.ofText? t
        return ⟨{ d with field := some field }, .afterField⟩
    else some r
  | .afterField => if c = ']' then some { r with place := .afterSpan } else none
  | .afterSpan => if c = '=' then some { r with place := .inThreshold after } else none
  | .inThreshold _ => some r

/-- What has been read after a text that begins at the given place. -/
def DirectiveReading.read? (given : Text) : DirectiveReading → Nat → Text → Option DirectiveReading
  | r, _, [] => some r
  | r, place, c :: rest =>
    (r.next? given place c).bind (read? given · (place + c.utf8Size) rest)

/-- The directive that has been read, at the end. A word alone is a threshold, or else a target for
which everything is let through; a threshold that is left out lets everything through. -/
def DirectiveReading.finish? (given : Text) (r : DirectiveReading) : Option Directive :=
  match r.place with
  | .inWord first =>
    (given.dropBytes? first).map fun word =>
      match Threshold.ofText? word with
      | some threshold => { threshold }
      | none => { target := some word }
  | .inThreshold first => do
    let word ← given.dropBytes? first
    if word = [] then return r.directive
    else
      let threshold ← Threshold.ofText? word
      return { r.directive with threshold }
  | .afterSpan => some r.directive
  | _ => none

def Directive.ofText? (given : Text) : Option Directive :=
  (DirectiveReading.read? given {} 0 given.trim).bind (·.finish? given)

example : Directive.ofText? "errgen_cli[generate\x7bdry_run=true\x7d]=debug".toList =
    some
      { target := some "errgen_cli".toList
        span := some "generate".toList
        field := some { name := "dry_run".toList, value := some (.flag true) }
        threshold := some .debug } := by decide +kernel

end ErrorCatalog
