import ErrorCatalog.Text.Quoted

/-!
# `ErrorCatalog/Settings/Mistake.lean` — what can be wrong with a setting

A value given for a setting is of the wrong type, or it is not one of the words the setting knows,
or its key is not one of the settings. `Mistake` says which, with what was found and what was
expected; `Mistake.message` is the one place with the wording.

A word may also be written as a table with the word as its only key and nothing below it. The last
few mistakes are about such tables, and about numbers that no message can hold.
-/

set_option autoImplicit false

namespace ErrorCatalog

/-- A value of the wrong type, as far as a message describes it. -/
inductive Found where
  | boolean (value : Bool)
  | integer (decimal : Text)
  /-- An integer that does not fit 64 bits; `above` if it does not fit 128 bits with a sign either. -/
  | wideInteger (decimal : Text) (above : Bool)
  | float (decimal : Text)
  | string (value : Text)
  | map
  | sequence
  | null

/-- How a message describes a value. -/
def Found.description : Found → Text
  | .boolean true => "boolean `true`".toList
  | .boolean false => "boolean `false`".toList
  | .integer decimal => "integer `".toList ++ decimal ++ ['`']
  | .wideInteger decimal above =>
    "integer `".toList ++ decimal ++ "` as ".toList ++ (if above then "u128" else "i128").toList
  | .float decimal => "floating point `".toList ++ decimal ++ ['`']
  | .string value => "string ".toList ++ value.shown
  | .map => "map".toList
  | .sequence => "sequence".toList
  | .null => "null".toList

/-- The ways a setting can be wrong. -/
inductive Mistake where
  | wrongType (found : Found) (expected : Text)
  | unknownWord (found : Text) (expected : List Text)
  | unknownKey (found : Text) (expected : List Text)
  | notAWord
  | notASingleKey
  | notOneWord (count : Nat)
  | wordWithContent
  | numberTooLarge

def backQuoted (word : Text) : Text := '`' :: word ++ ['`']

/-- The words a message offers: one alone, two with `or`, more as a list. -/
def alternatives : List Text → Text
  | [a] => backQuoted a
  | [a, b] => backQuoted a ++ " or ".toList ++ backQuoted b
  | words => "one of ".toList ++ Text.joined ", ".toList (words.map backQuoted)

def Mistake.message : Mistake → Text
  | .wrongType found expected =>
    "invalid type: ".toList ++ found.description ++ ", expected ".toList ++ expected
  | .unknownWord found expected =>
    "unknown variant ".toList ++ backQuoted found ++ ", expected ".toList ++ alternatives expected
  | .unknownKey found expected =>
    "unknown field ".toList ++ backQuoted found ++ ", expected ".toList ++ alternatives expected
  | .notASingleKey => "invalid value: map, expected map with a single key".toList
  | .notAWord => "wanted string or table".toList
  | .notOneWord count => "wanted exactly 1 element, found ".toList ++ Text.ofNat count
  | .wordWithContent => "wanted nothing below the word".toList
  | .numberTooLarge => "number too large".toList

end ErrorCatalog
