import ErrorCatalog.Number.Total

/-!
# `ErrorCatalog/Text.lean` — text as a list of characters

Everything the library reads or writes is a `Text`: the list of its Unicode scalar values. The
choice is made once, here, and it is made for the sake of the proofs — splitting, quoting, joining
and line layout are then structural recursions or `List` operations, and `++` is the only way two
texts meet.

Bytes appear at two places only: where a file's contents are decoded (`Text.decode?`, total on
every byte sequence, `none` exactly off the well-formed ones) and where a text is stored
(`Text.encode`, with its size `Text.byteSize`).

What is *not* here: anything that depends on which character is which. Blanks are in
`ErrorCatalog/Text/Blank.lean`, letter case in `ErrorCatalog/Text/Case.lean`.
-/

set_option autoImplicit false

namespace ErrorCatalog

/-- A text is the list of its Unicode scalar values. -/
abbrev Text := List Char

namespace Text

/-! ## 1. Cutting and joining -/

/-- The pieces of a text between separator characters. There is always at least one piece, two
adjacent separators enclose an empty one, and no separator is kept. -/
def pieces (isSeparator : Char → Bool) : Text → List Text
  | [] => [[]]
  | c :: rest =>
    if isSeparator c then [] :: pieces isSeparator rest
    else
      match pieces isSeparator rest with
      | [] => [[c]]
      | first :: others => (c :: first) :: others

theorem pieces_ne_nil (isSeparator : Char → Bool) (t : Text) : pieces isSeparator t ≠ [] := by
  cases t with
  | nil => simp [pieces]
  | cons c rest =>
    unfold pieces
    split
    · simp
    · split <;> simp

/-- The texts in order, with `separator` between neighbours. -/
def joined (separator : Text) : List Text → Text
  | [] => []
  | [t] => t
  | t :: u :: rest => t ++ separator ++ joined separator (u :: rest)

@[simp] theorem joined_nil (separator : Text) : joined separator [] = [] := rfl

@[simp] theorem joined_singleton (separator t : Text) : joined separator [t] = t := rfl

theorem joined_cons_cons (separator t u : Text) (rest : List Text) :
    joined separator (t :: u :: rest) = t ++ separator ++ joined separator (u :: rest) := rfl

/-- Joining with the separator undoes cutting at it. -/
theorem joined_pieces (separator : Char) (t : Text) :
    joined [separator] (pieces (· == separator) t) = t := by
  induction t with
  | nil => rfl
  | cons c rest ih =>
    have h := pieces_ne_nil (· == separator) rest
    by_cases hc : c = separator
    · subst hc
      simp only [pieces, beq_self_eq_true, if_true]
      cases hp : pieces (· == c) rest with
      | nil => exact absurd hp h
      | cons first others => rw [hp] at ih; simp [joined_cons_cons, ih]
    · have hb : (c == separator) = false := by simp [hc]
      simp only [pieces, hb]
      cases hp : pieces (· == separator) rest with
      | nil => exact absurd hp h
      | cons first others =>
        rw [hp] at ih
        cases others with
        | nil => simpa using ih
        | cons second more => simpa [joined_cons_cons] using ih

/-- The lines of a document, each closed by a line feed. -/
def ofLines (lines : List Text) : Text := lines.flatMap (· ++ ['\n'])

@[simp] theorem ofLines_nil : ofLines [] = [] := rfl

@[simp] theorem ofLines_cons (l : Text) (ls : List Text) :
    ofLines (l :: ls) = l ++ '\n' :: ofLines ls := by
  simp [ofLines]

theorem ofLines_append (ls ms : List Text) : ofLines (ls ++ ms) = ofLines ls ++ ofLines ms := by
  simp [ofLines]

/-- `count` copies of one character. -/
def filler (c : Char) (count : Nat) : Text := List.replicate count c

/-! ## 2. Numbers and order -/

/-- A natural number in decimal. -/
def ofNat (n : Nat) : Text := Nat.toDigits 10 n

/-- Code point order, which is also the order of the UTF-8 bytes. -/
def precedes : Text → Text → Bool
  | [], _ => true
  | _ :: _, [] => false
  | c :: t, d :: u => c.toNat < d.toNat || (c == d && precedes t u)

def hexDigit? (c : Char) : Option Nat :=
  if '0' ≤ c ∧ c ≤ '9' then some (c.toNat - '0'.toNat)
  else if 'a' ≤ c ∧ c ≤ 'f' then some (c.toNat - 'a'.toNat + 10)
  else if 'A' ≤ c ∧ c ≤ 'F' then some (c.toNat - 'A'.toNat + 10)
  else none

/-- A number in lower-case hexadecimal, without leading zeros. -/
def ofNatHex (n : Nat) : Text := Nat.toDigits 16 n

/-- Fills on the left with `c` up to `width` characters; a longer text stays whole. -/
def padLeft (c : Char) (width : Nat) (t : Text) : Text := filler c (width - t.length) ++ t

/-! ## 3. Bytes -/

/-- The number of bytes a text takes in UTF-8. -/
def byteSize (t : Text) : Nat := total Char.utf8Size t

@[simp] theorem byteSize_cons (c : Char) (t : Text) : byteSize (c :: t) = c.utf8Size + byteSize t :=
  rfl

def encode (t : Text) : ByteArray := (String.ofList t).toUTF8

/-- The text a byte sequence encodes, if it is well-formed UTF-8 throughout. -/
def decode? (bytes : ByteArray) : Option Text := (String.fromUTF8? bytes).map String.toList

end Text

end ErrorCatalog
