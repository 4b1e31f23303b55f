import ErrorCatalog.Number.Power
import ErrorCatalog.Toml.Value

/-!
# `ErrorCatalog/Toml/Scalar.lean` — numbers, dates and truth values

A scalar that is not a string is a run of characters without blanks. What kind of scalar it is can
be read off the run as a whole, so everything here is a function from a complete text to an
optional value, and nothing here reads ahead.

* A decimal integer has no leading zero. The integer part of a fraction has none either; what comes
  after the point and the exponent may have one.
* An underscore stands between two digits. A sign may come before it, too. Beside an underscore of
  an integer the letters up to `f` count as digits, whatever the base.
* A text that starts with digits and goes on with an underscore is an integer as far as reading
  goes. If there is more in it than digits it has no value, as little as a base mark without any
  digits has; to *use* it is a mistake, to write it is none.
* A date has to exist: the 29th of February does in leap years only. A second 60 is accepted, for
  leap seconds.
-/

set_option autoImplicit false

namespace ErrorCatalog

/-! ## 1. Digits -/

def digitIn? (base : Nat) (c : Char) : Option Nat :=
  (Text.hexDigit? c).bind fun d => if d < base then some d else none

/-- The number that digits are in a base; nothing if there are none, or other characters. -/
def number? (base : Nat) (t : Text) : Option Nat :=
  if t = [] then none
  else (t.mapM (digitIn? base)).map fun digits => digits.foldl (fun n d => base * n + d) 0

def withoutUnderscores (t : Text) : Text := t.filter (· ≠ '_')

/-- Whether every underscore has a digit of a base on both sides. A single character in front of
the first underscore need not be a digit: it may be a sign. -/
def hasUnderscoresInside (base : Nat) (t : Text) : Bool :=
  let isDigit := fun c => (digitIn? base c).isSome
  match Text.pieces (· == '_') t with
  | [] => true
  | [_] => true
  | first :: rest =>
    !first.isEmpty && (first.length == 1 || first.getLast?.any isDigit) &&
      rest.all (fun piece => piece.head?.any isDigit) &&
      rest.dropLast.all (fun piece => piece.getLast?.any isDigit)

/-- The sign in front of a text, if there is one, and the text after it. -/
def signed (t : Text) : Option Char × Text :=
  match t with
  | '-' :: rest => (some '-', rest)
  | '+' :: rest => (some '+', rest)
  | _ => (none, t)

/-- A natural number with its sign. -/
def withSign (sign : Option Char) (n : Nat) : Int :=
  if sign = some '-' then Int.negOfNat n else Int.ofNat n

/-! ## 2. Numbers -/

/-- The bases with a mark of their own. -/
def base? (c : Char) : Option Nat :=
  if c = 'x' then some 16 else if c = 'o' then some 8 else if c = 'b' then some 2 else none

/-- An integer with a base mark, given what comes after the mark. It may lack its digits. -/
def markedInteger? (base : Nat) (t : Text) : Option (Option Int) :=
  let digits := withoutUnderscores t
  if t.head? ≠ some '_' ∧ hasUnderscoresInside base t ∧ digits.all fun c => (digitIn? base c).isSome
  then some ((number? base digits).map Int.ofNat)
  else none

def isFractionMark (c : Char) : Bool := c == '.' || c == 'e' || c == 'E'

/-- A decimal integer, or a text that looks like one. -/
def decimalInteger? (t : Text) : Option (Option Int) :=
  let (sign, body) := signed t
  let rest := body.dropWhile Char.isDigit
  let value := (number? 10 (withoutUnderscores body)).map (withSign sign)
  if rest = [] then
    if body = [] ∨ body.head? = some '0' ∧ body ≠ ['0'] then none else some value
  else if rest.head? = some '_' ∧ !rest.any isFractionMark ∧ body.head? ≠ some '0' ∧
      hasUnderscoresInside 16 t then
    some value
  else none

/-- An integer, or a text that looks like one. -/
def integer? (t : Text) : Option (Option Int) :=
  match t with
  | '0' :: mark :: rest =>
    match base? mark with
    | some base => markedInteger? base rest
    | none => decimalInteger? t
  | _ => decimalInteger? t

/-- The digits and underscores that a text begins with, if there is a digit among them, and what
comes after them. -/
def digitsAfter? (t : Text) : Option (Text × Text) :=
  let isPart := fun c => c.isDigit || c == '_'
  if (t.takeWhile isPart).any Char.isDigit then some (t.takeWhile isPart, t.dropWhile isPart)
  else none

/-- The decimal places that a text begins with, and what comes after them. -/
def placesAfter? (t : Text) : Option (Text × Text) :=
  match t with
  | '.' :: rest => digitsAfter? rest
  | _ => some ([], t)

def exponent? (t : Text) : Option Int :=
  match t with
  | [] => some 0
  | c :: rest =>
    if c = 'e' ∨ c = 'E' then
      let (sign, body) := signed rest
      match digitsAfter? body with
      | some (digits, []) => (number? 10 (withoutUnderscores digits)).map (withSign sign)
      | _ => none
    else none

/-- Whether digits and underscores begin with a zero and have more than one digit. -/
def hasLeadingZero (t : Text) : Bool :=
  t.head? == some '0' && (withoutUnderscores t).length != 1

/-- A fraction that has a point or an exponent, without its sign. -/
def unsignedFloat? (negative : Bool) (t : Text) : Option TomlFloat := do
  let (whole, rest) ← digitsAfter? t
  let (places, rest) ← placesAfter? rest
  let exponent ← exponent? rest
  let digits ← number? 10 (withoutUnderscores (whole ++ places))
  if hasLeadingZero whole || !t.any isFractionMark then none
  else some (.decimal negative digits (exponent - Int.ofNat (withoutUnderscores places).length))

/-- A fraction, an infinity, or what is not a number. -/
def float? (t : Text) : Option TomlFloat :=
  let (sign, body) := signed t
  let negative := sign == some '-'
  if body = "inf".toList then some (.infinity negative)
  else if body = "nan".toList then some .notANumber
  else if t.head? ≠ some '_' ∧ hasUnderscoresInside 10 t then unsignedFloat? negative body
  else none

/-! ## 3. Dates and times -/

/-- A number of exactly `width` decimal digits that is in a range, ends included. -/
def fixedDigits (width low high : Nat) (t : Text) : Bool :=
  t.length == width &&
    match t.mapM (digitIn? 10) with
    | none => false
    | some digits =>
      let n := digits.foldl (fun n d => 10 * n + d) 0
      low ≤ n && n ≤ high

def daysInMonth (year month : Nat) : Nat :=
  if month = 2 then
    if year % 4 = 0 ∧ (year % 100 ≠ 0 ∨ year % 400 = 0) then 29 else 28
  else if month ∈ [4, 6, 9, 11] then 30
  else 31

/-- Whether a text is a date that exists. -/
def isDate (t : Text) : Bool :=
  match Text.pieces (· == '-') t with
  | [year, month, day] =>
    fixedDigits 4 0 9999 year && fixedDigits 2 1 12 month &&
      match number? 10 year, number? 10 month with
      | some y, some m => fixedDigits 2 1 (daysInMonth y m) day
      | _, _ => false
  | _ => false

/-- Whether a text is a second, possibly with a fraction. -/
def isSecond (t : Text) : Bool :=
  match Text.pieces (· == '.') t with
  | [second] => fixedDigits 2 0 60 second
  | [second, places] =>
    fixedDigits 2 0 60 second && !places.isEmpty && places.all fun c => (digitIn? 10 c).isSome
  | _ => false

/-- Whether a text is a time of day. The second may be left out. -/
def isTime (t : Text) : Bool :=
  match Text.pieces (· == ':') t with
  | [hour, minute] => fixedDigits 2 0 23 hour && fixedDigits 2 0 59 minute
  | [hour, minute, second] => fixedDigits 2 0 23 hour && fixedDigits 2 0 59 minute && isSecond second
  | _ => false

/-- Whether a text is the distance from universal time, without its sign. -/
def isOffset (t : Text) : Bool :=
  match Text.pieces (· == ':') t with
  | [hour, minute] => fixedDigits 2 0 23 hour && fixedDigits 2 0 59 minute
  | _ => false

/-- Whether a text is a time of day, possibly with the distance from universal time. -/
def isZonedTime (t : Text) : Bool :=
  let time := t.takeWhile fun c => c.isDigit || c == ':' || c == '.'
  isTime time &&
    match t.dropWhile fun c => c.isDigit || c == ':' || c == '.' with
    | [] => true
    | c :: rest =>
      if c = 'Z' ∨ c = 'z' then rest.isEmpty else (c == '+' || c == '-') && isOffset rest

/-- The number of characters in a date. -/
def dateLength : Nat := 10

/-- Whether a text is a date, a time, or a date and a time. -/
def isMoment (t : Text) : Bool :=
  isTime t ||
    isDate (t.take dateLength) &&
      match t.drop dateLength with
      | [] => true
      | c :: rest => (c == 'T' || c == 't' || c == ' ') && isZonedTime rest

/-! ## 4. All scalars -/

/-- The characters that end a scalar which is not a string. -/
def scalarEnds : List Char := [' ', '\t', '\n', '\r', '#', ',', '=', '[', ']', '\x7b', '\x7d']

/-- Whether a character may be part of a scalar that is not a string. -/
def isScalarChar (c : Char) : Bool := !scalarEnds.contains c

def scalar? (t : Text) : Option Toml :=
  if t = "true".toList then some (.boolean true)
  else if t = "false".toList then some (.boolean false)
  else
    match integer? t, float? t with
    | some n, _ => some (.integer n)
    | none, some f => some (.float f)
    | none, none => if isMoment t then some .moment else none

example : integer? "-1_000".toList = some (some (-1000)) ∧
    integer? "0xff".toList = some (some 255) ∧ integer? "+_1".toList = some (some 1) ∧
    integer? "01".toList = none ∧ integer? "1__0".toList = none := by decide

example : integer? "0x".toList = some none ∧ integer? "1_0:b".toList = some none ∧
    integer? "1_x".toList = none ∧ integer? "10b".toList = none := by decide

example : float? "-1_0.50e+3".toList = some (.decimal true 1050 1) ∧ float? "1.".toList = none ∧
    float? "1".toList = none := by decide

example : isMoment "2024-02-29 07:32:00.5-08:00".toList = true ∧
    isMoment "2023-02-29".toList = false ∧ isMoment "23:59:60".toList = true ∧
    isMoment "07:32".toList = true := by decide

end ErrorCatalog
