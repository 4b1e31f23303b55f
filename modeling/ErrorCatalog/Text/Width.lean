import ErrorCatalog.Text
import ErrorCatalog.Text.EmojiTable
import ErrorCatalog.Text.Range
import ErrorCatalog.Text.WidthTable

/-!
# `ErrorCatalog/Text/Width.lean` — how many columns a text takes

Boxes on a terminal are laid out in columns, not in characters: `日` takes two columns and a
combining accent none. A character alone has the width `columnsOf`. In a text, what follows a
character can change its width, because some sequences are drawn as one:

* a selector asks for the character before it to be drawn as a picture, as a letter, or wide;
* pictures merge across a joiner, with a skin tone, and with what is drawn around them;
* in several scripts two letters merge into one sign, some of them across a joiner.

So a text is measured from its end. `Following` is what has to be known of the text after a
character, `Following.prepend` measures one more character and says what is known then.

Escape sequences are not looked for here; that is `ErrorCatalog/Text/Escape.lean`.
-/

set_option autoImplicit false

namespace ErrorCatalog

/-! ## 1. Characters alone -/

/-- The columns of one character: two if it is wide, none if it combines or is ignored, three for
the Khmer sign *beyyal*, else one. -/
def columnsOf (c : Char) : Nat :=
  if c.toNat ≤ 0xA0 then 1
  else if inRanges zeroWidthRanges c then 0
  else if inRanges wideRanges c then 2
  else if c.toNat = 0x17D8 then 3
  else 1

/-- The joiner, which asks for its neighbours to be drawn as one. -/
def joiner : Char := '\u200d'

/-- The keycap that is drawn around the character before it. -/
def keycap : Char := '\u20e3'

def isPicture (c : Char) : Bool := inRanges pictureRanges c

def isSkinTone (c : Char) : Bool := inRanges [(0x1F3FB, 0x1F3FF)] c

def isFlagLetter (c : Char) : Bool := inRanges [(0x1F1E6, 0x1F1FF)] c

def isSquaredIdeograph (c : Char) : Bool := inRanges [(0x1F200, 0x1F2FF)] c

/-- The quotation marks that can be drawn wide. -/
def isQuotationMark (c : Char) : Bool := inRanges [(0x2018, 0x2019), (0x201C, 0x201D)] c

/-- The Arabic letters of the shape of alef. -/
def isAlef (c : Char) : Bool :=
  inRanges [(0x622, 0x623), (0x625, 0x625), (0x627, 0x627), (0x671, 0x673), (0x675, 0x675),
    (0x773, 0x774), (0x870, 0x882)] c

/-- The Arabic letters of the shape of lam. -/
def isLam (c : Char) : Bool :=
  inRanges [(0x644, 0x644), (0x6B5, 0x6B8), (0x76A, 0x76A), (0x8A6, 0x8A6), (0x8C7, 0x8C7)] c

/-- The Khmer letters that can stand below another one. -/
def isKhmerSubscript (c : Char) : Bool :=
  inRanges [(0x1780, 0x1782), (0x1784, 0x1787), (0x1789, 0x178C), (0x178E, 0x1793),
    (0x1795, 0x1798), (0x179B, 0x179D), (0x17A0, 0x17A0), (0x17A2, 0x17A2), (0x17A7, 0x17A7),
    (0x17AB, 0x17AC), (0x17AF, 0x17AF)] c

def isTifinaghConsonant (c : Char) : Bool := inRanges [(0x2D31, 0x2D65), (0x2D6F, 0x2D6F)] c

/-- The first part of a Lisu tone of two letters. -/
def isLisuTone (c : Char) : Bool := inRanges [(0xA4F8, 0xA4FB)] c

/-- The second part of a Lisu tone of two letters. -/
def isLisuToneEnd (c : Char) : Bool := inRanges [(0xA4FC, 0xA4FD)] c

/-- The characters that can stand between two letters that merge. -/
def isInvisible (c : Char) : Bool :=
  inRanges [(0x34F, 0x34F), (0x17B4, 0x17B5), (0x180B, 0x180D), (0x180F, 0x180F),
    (0xFE00, 0xFE0F), (0xE0100, 0xE01EF)] c

def isJoinedAcross (c : Char) : Bool :=
  0xA0 < c.toNat && inRanges zeroWidthRanges c && !inRanges separatingRanges c

/-! ## 2. What follows a character -/

inductive Merging where
  | lamed
  | khmerSubscript
  | ya
  /-- The vowel i of Buginese, with a joiner and ya. -/
  | vowelYa
  | tifinagh
  /-- The joiner of Tifinagh with a consonant. -/
  | tifinaghPair
  | lisuTone
  | turkicI
deriving DecidableEq

/-- What a text starts with, as far as it matters for the character before it. -/
inductive Lead where
  | plain
  | picture
  | skinTone
  | flagLetter
  | flagLetters
  | joined
  | joinedKeycap
  /-- A flag letter, a joiner and a picture. -/
  | joinedLetter
  /-- An even number of flag letters, a joiner and a picture. -/
  | joinedEven
  /-- An odd number of flag letters, but more than one, a joiner and a picture. -/
  | joinedOdd
  | alef
  /-- The vowel e of Kirat Rai. -/
  | vowelE
  /-- The vowel ai of Kirat Rai, which is two times the vowel e. -/
  | vowelAi
  | merging (letter : Merging) (afterJoiner : Bool)
deriving DecidableEq

/-- How a character is asked to be drawn. -/
inductive Selector where
  | picture
  | letter
  | wide
deriving DecidableEq

/-- What is known of the text after a character. -/
structure Following where
  lead : Lead := .plain
  selector : Option Selector := none
deriving DecidableEq

def Selector.ofChar? (c : Char) : Option Selector :=
  if c = '\ufe0f' then some .picture
  else if c = '\ufe0e' then some .letter
  else if c = '\ufe01' then some .wide
  else none

/-- What a character is for the one before it. -/
def Lead.ofChar (c : Char) : Lead :=
  if isPicture c then .picture
  else if isSkinTone c then .skinTone
  else if isFlagLetter c then .flagLetter
  else if isAlef c then .alef
  else if isKhmerSubscript c then .merging .khmerSubscript false
  else if isTifinaghConsonant c then .merging .tifinagh false
  else if isLisuToneEnd c then .merging .lisuTone false
  else if c = '\u05dc' then .merging .lamed false
  else if c = '\u1a10' then .merging .ya false
  else if c.toNat = 0x10C03 then .merging .turkicI false
  else if c.toNat = 0x16D67 then .vowelE
  else if c.toNat = 0x16D68 then .vowelAi
  else .plain

/-- What is left of a lead when a selector comes before it. -/
def Lead.below (s : Selector) : Lead → Lead
  | .merging letter afterJoiner => .merging letter afterJoiner
  | .alef => .alef
  | .joined => if s = .picture then .joined else .plain
  | .joinedKeycap => if s = .picture then .joinedKeycap else .plain
  | _ => .plain

/-! ## 3. Measuring -/

/-- The columns of a character that is drawn as the selector after it asks, and what it is then. -/
def Following.selected? (f : Following) (c : Char) : Option (Int × Lead) :=
  match f.selector with
  | some .picture =>
    if inRanges selectableRanges c then
      some (if f.lead = .joined ∨ f.lead = .joinedKeycap then 0 else 2, .picture)
    else none
  | some .letter =>
    if inRanges selectableRanges c && isPicture c && !isSquaredIdeograph c then some (1, .plain)
    else none
  | some .wide => if isQuotationMark c then some (2, .plain) else none
  | none => none

/-- The lead after a selector that the character before it cannot follow. -/
def Following.unselected (f : Following) : Lead :=
  match f.selector, f.lead with
  | some _, .joined => .plain
  | some _, .joinedKeycap => .plain
  | _, lead => lead

/-- The columns that a character adds before a letter that merges with it, and what both are. -/
def Merging.before? (letter : Merging) (afterJoiner : Bool) (c : Char) : Option (Int × Lead) :=
  match letter with
  | .lamed => if afterJoiner && c == '\u05d0' then some (0, .plain) else none
  | .khmerSubscript => if c = '\u17d2' then some (-1, .plain) else none
  | .ya => if afterJoiner && c == '\u1a17' then some (0, .merging .vowelYa true) else none
  | .vowelYa => if c = '\u1a15' then some (0, .plain) else none
  | .tifinagh =>
    if c = '\u2d7f' then some (1, .merging .tifinaghPair true)
    else if afterJoiner && isTifinaghConsonant c then some (0, .plain)
    else none
  | .tifinaghPair => if isTifinaghConsonant c then some (-1, .plain) else none
  | .lisuTone => if isLisuTone c then some (0, .plain) else none
  | .turkicI => if afterJoiner && c.toNat == 0x10C32 then some (0, .plain) else none

/-- The columns that a character adds before a lead it is drawn together with, and what both are. -/
def Lead.before? (lead : Lead) (c : Char) : Option (Int × Lead) :=
  match lead with
  | .plain => none
  | .picture => if c = joiner then some (0, .joined) else none
  | .skinTone =>
    if inRanges toneBaseRanges c then some (0, .picture)
    else if c = joiner then some (0, .joined)
    else none
  | .flagLetter => if isFlagLetter c then some (1, .flagLetters) else none
  | .flagLetters =>
    if isFlagLetter c then some (1, .flagLetters)
    else if c = joiner then some (0, .joined)
    else none
  | .joined =>
    if c = keycap then some (0, .joinedKeycap)
    else if isFlagLetter c then some (1, .joinedLetter)
    else if isSkinTone c then some (0, .skinTone)
    else if isPicture c then some (0, .picture)
    else none
  | .joinedKeycap => none
  | .joinedLetter => if isFlagLetter c then some (-1, .joinedEven) else none
  | .joinedEven =>
    if isFlagLetter c then some (3, .joinedOdd)
    else if c = joiner then some (0, .joined)
    else none
  | .joinedOdd =>
    if isFlagLetter c then some (-1, .joinedEven)
    else if c = joiner then some (0, .joined)
    else none
  | .alef =>
    if isLam c then some (0, .plain) else if isJoinedAcross c then some (0, .alef) else none
  | .vowelE =>
    if c.toNat = 0x16D63 ∨ c.toNat = 0x16D69 then some (0, .plain)
    else if c.toNat = 0x16D67 then some (0, .vowelAi)
    else if c.toNat = 0x16D68 then some (1, .vowelE)
    else none
  | .vowelAi => if c.toNat = 0x16D63 then some (0, .plain) else none
  | .merging letter afterJoiner =>
    if c = joiner then some (0, .merging letter true)
    else if isInvisible c then some (0, .merging letter afterJoiner)
    else letter.before? afterJoiner c

/-- The columns that a character adds to the text that follows it, and what is known then. They are
negative where a letter takes back a column of the one after it. -/
def Following.prepend (c : Char) (f : Following) : Int × Following :=
  match f.selected? c with
  | some (columns, lead) => (columns, { lead })
  | none =>
    match Selector.ofChar? c with
    | some selector => (0, { lead := f.unselected.below selector, selector })
    | none =>
      let (columns, lead) := (f.unselected.before? c).getD (columnsOf c, Lead.ofChar c)
      (columns, { lead })

namespace Text

/-- The columns of a text, and what is known of it for a character before it. -/
def measured : Text → Int × Following
  | [] => (0, {})
  | c :: rest =>
    let (columns, following) := measured rest
    let (more, now) := following.prepend c
    (more + columns, now)

def columns (t : Text) : Nat := (measured t).1.toNat

end Text

example : Text.columns "Écran".toList = 5 ∧ Text.columns "日本".toList = 4 ∧
    Text.columns ['e', '\u0301'] = 1 ∧ Text.columns "👩‍💻".toList = 2 ∧
    Text.columns "❤️".toList = 2 ∧ Text.columns "لا".toList = 1 := by decide +kernel

end ErrorCatalog
