import ErrorCatalog.Number.Binary64
import ErrorCatalog.Number.Power
import ErrorCatalog.Settings.Basic
import ErrorCatalog.Toml.Document

/-!
# `ErrorCatalog/Settings/Decode.lean` — from a document to settings

A settings file is a TOML document with one table, `generate`, that holds the settings. The table
and everything in it may be left out, and nothing else may be there.

The document is first read as a whole; only a document that is right is looked into. Its tables are
taken in the order of their keys, not in the order in which they are written, and the first mistake
ends the decoding. Every mistake has a place: that of the key if the key is wrong, else that of the
value.

The values of the settings may be given without their keys, as an array in the order of
`Setting.all`. Values that are left after the last setting are not looked at.
-/

set_option autoImplicit false

namespace ErrorCatalog

/-- Why a settings file cannot be used. -/
inductive SettingsError where
  /-- It is no TOML document, as is seen where so many characters are left. -/
  | notToml (place : Nat)
  | mistaken (mistake : Mistake) (extent : Extent)

/-- A value and where it is written. -/
abbrev PlacedToml := Extent × Toml

/-- What is got out of a value. -/
abbrev Decoded (α : Type) := Except SettingsError α

/-! ## 1. What is found -/

/-- How a message shows an integer, if it can. -/
def integerFound? (n : Int) : Option Found :=
  let shown := (if n < 0 then ['-'] else []) ++ Text.ofNat n.natAbs
  if Int.negOfNat (twoTo 63) ≤ n ∧ n < Int.ofNat (twoTo 64) then some (.integer shown)
  else if Int.negOfNat (twoTo 127) ≤ n ∧ n < Int.ofNat (twoTo 127) then
    some (.wideInteger shown false)
  else if 0 ≤ n ∧ n < Int.ofNat (twoTo 128) then some (.wideInteger shown true)
  else none

def signedText (negative : Bool) (t : Text) : Text := if negative then '-' :: t else t

/-- How a message shows a fraction, if it can. -/
def floatFound? : TomlFloat → Option Found
  | .infinity negative => some (.float (signedText negative "inf".toList))
  | .notANumber => some (.float "NaN".toList)
  | .decimal negative digits exponent =>
    (decimalShown? digits exponent).map fun t => .float (signedText negative t)

/-- How a message shows a value, if it has one and it can. A date is a kind of map. -/
def Toml.found? : Toml → Option Found
  | .string value => some (.string value)
  | .integer value => value.bind integerFound?
  | .float value => floatFound? value
  | .boolean value => some (.boolean value)
  | .moment => some .map
  | .array _ => some .sequence
  | .tables _ => some .sequence
  | .table _ _ => some .map

/-- The mistake of a value that is not of the expected type. -/
def unexpected {α : Type} (expected : String) (v : PlacedToml) : Decoded α :=
  match v.2.found? with
  | some found => .error (.mistaken (.wrongType found expected.toList) v.1)
  | none => .error (.mistaken .numberTooLarge v.1)

/-! ## 2. Single values -/

def decodeText (expected : String) (v : PlacedToml) : Decoded Text :=
  match v.2 with
  | .string value => .ok value
  | _ => unexpected expected v

/-- A list of values of one kind. -/
def decodeList {α : Type} (decode : PlacedToml → Decoded α) (v : PlacedToml) : Decoded (List α) :=
  match v.2 with
  | .array items => items.mapM decode
  | .tables items => items.mapM decode
  | _ => unexpected "a sequence" v

/-- A place for the mistakes of a decision that knows none. -/
def placed {α : Type} (extent : Extent) : Except Mistake α → Decoded α
  | .ok result => .ok result
  | .error mistake => .error (.mistaken mistake extent)

/-- Whether nothing is in an array or a table. -/
def Toml.isHollow : Toml → Bool
  | .array items => items.isEmpty
  | .tables items => items.isEmpty
  | .table _ entries => entries.isEmpty
  | _ => false

/-- One of some words, as a text or as a table with the word as its only key. -/
def decodeWord {α : Type} (ofWord : Text → Except Mistake α) (v : PlacedToml) : Decoded α :=
  match v.2 with
  | .string word => placed v.1 (ofWord word)
  | .table _ [(key, extent, content)] => do
    let choice ← placed key.extent (ofWord key.text)
    if content.isHollow then .ok choice else .error (.mistaken .wordWithContent extent)
  | .table _ entries => .error (.mistaken (.notOneWord entries.length) v.1)
  | _ => .error (.mistaken .notAWord v.1)

def Language.ofId (given : Text) : Except Mistake Language :=
  chosenByWord Language.id Language.all given

/-! ## 3. Tables -/

/-- Adds the value of one setting. -/
def Setting.decode (v : PlacedToml) (settings : Settings) : Setting → Decoded Settings
  | .outputDirectory =>
    (decodeText "path string" v).map fun t => { settings with outputDirectory := some ⟨t⟩ }
  | .languages =>
    (decodeList (decodeWord Language.ofId) v).map fun languages => { settings with languages }
  | .package => (decodeText "a string" v).map fun t => { settings with package := some t }
  | .onCollision =>
    (decodeWord CollisionPolicy.ofWord v).map fun p => { settings with onCollision := some p }
  | .onOverflow =>
    (decodeWord OverflowPolicy.ofWord v).map fun p => { settings with onOverflow := some p }

/-- The entries of a table in the order of their keys. -/
def TomlEntries.inKeyOrder (entries : TomlEntries) : TomlEntries :=
  entries.mergeSort fun p q => p.1.text.precedes q.1.text

/-- Adds the value of one entry. -/
def decodeEntry (settings : Settings) (entry : TomlKey × PlacedToml) : Decoded Settings :=
  match Setting.ofKey? entry.1.text with
  | some setting => setting.decode entry.2 settings
  | none =>
    .error (.mistaken (.unknownKey entry.1.text (Setting.all.map Setting.key)) entry.1.extent)

/-- Adds the values of an array, one for each setting. -/
def decodeItems (settings : Settings) (items : List PlacedToml) : Decoded Settings :=
  (Setting.all.zip items).foldlM (fun s p => p.1.decode p.2 s) settings

/-- The key that a date has in place of keys of its own. -/
def momentKey : Text := "$__toml_private_datetime".toList

def decodeSettings (v : PlacedToml) : Decoded Settings :=
  match v.2 with
  | .table _ entries => (TomlEntries.inKeyOrder entries).foldlM decodeEntry {}
  | .array items => decodeItems {} items
  | .tables items => decodeItems {} items
  | .moment => decodeEntry {} (⟨momentKey, v.1⟩, v)
  | _ => unexpected "struct GenerateSettings" v

def settingsKey : Text := "generate".toList

/-- The settings in a document that has been read. -/
def decodeDocument (entries : TomlEntries) : Decoded Settings :=
  (TomlEntries.inKeyOrder entries).foldlM (fun _ entry =>
    if entry.1.text = settingsKey then decodeSettings entry.2
    else .error (.mistaken (.unknownKey entry.1.text [settingsKey]) entry.1.extent)) {}

def Settings.ofText (document : Text) : Decoded Settings :=
  match TomlEntries.ofText document with
  | .error place => .error (.notToml place)
  | .ok entries => decodeDocument entries

end ErrorCatalog
