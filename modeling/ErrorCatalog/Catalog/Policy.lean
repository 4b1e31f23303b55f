import ErrorCatalog.Settings.Mistake

/-!
# `ErrorCatalog/Catalog/Policy.lean` — what to do with doubtful rows

Two things can be odd about a row that is otherwise fine: its record name was already used, or it
has more fields than there are attributes. Each has a policy of two words, the default first.

The policies can be given as named options. An option that is absent has its default, an option
with an unknown key is ignored, and the collision policy is looked at before the overflow policy.
-/

set_option autoImplicit false

namespace ErrorCatalog

/-- What to do with a row whose record name was already used. -/
inductive CollisionPolicy where
  /-- The later row wins; the record keeps its place. -/
  | overwrite
  | reject
deriving DecidableEq

/-- What to do with a row that has more fields than there are attributes. -/
inductive OverflowPolicy where
  /-- The additional fields are kept, and no artifact shows them. -/
  | ignore
  | reject
deriving DecidableEq

structure BuildPolicy where
  onCollision : CollisionPolicy := .overwrite
  onOverflow : OverflowPolicy := .ignore
deriving DecidableEq

def CollisionPolicy.word : CollisionPolicy → Text
  | .overwrite => "overwrite".toList
  | .reject => "reject".toList

def OverflowPolicy.word : OverflowPolicy → Text
  | .ignore => "ignore".toList
  | .reject => "reject".toList

/-- The name of a policy in a diagnostic. -/
def CollisionPolicy.label : CollisionPolicy → Text
  | .overwrite => "Overwrite".toList
  | .reject => "Reject".toList

/-- The name of a policy in a diagnostic. -/
def OverflowPolicy.label : OverflowPolicy → Text
  | .ignore => "Ignore".toList
  | .reject => "Reject".toList

def chosenByWord {α : Type} (word : α → Text) (choices : List α) (given : Text) :
    Except Mistake α :=
  match choices.find? (word · == given) with
  | some choice => .ok choice
  | none => .error (.unknownWord given (choices.map word))

def CollisionPolicy.ofWord (given : Text) : Except Mistake CollisionPolicy :=
  chosenByWord CollisionPolicy.word [.overwrite, .reject] given

def OverflowPolicy.ofWord (given : Text) : Except Mistake OverflowPolicy :=
  chosenByWord OverflowPolicy.word [.ignore, .reject] given

inductive OptionValue where
  | word (given : Text)
  /-- A map of words, each with what is found below it. -/
  | map (entries : List (Text × Found))
  | other (found : Found)

/-- Nothing may be found below a word. -/
def checkNothing (found : Found) : Except Mistake Unit :=
  match found with
  | .null => .ok ()
  | _ => .error (.wrongType found "unit".toList)

/-- The choice an option value makes, given how words are read. A map with a single word that has
nothing below it is as good as the word. -/
def OptionValue.choose {α : Type} (ofWord : Text → Except Mistake α) : OptionValue → Except Mistake α
  | .word given => ofWord given
  | .map [(given, below)] => do
    let choice ← ofWord given
    checkNothing below
    return choice
  | .map _ => .error .notASingleKey
  | .other found => .error (.wrongType found "string or map".toList)

/-- The choice of the option with the given key, or the default if it is absent. -/
def optionOr {α : Type} (default : α) (ofWord : Text → Except Mistake α) (key : Text)
    (options : List (Text × OptionValue)) : Except Mistake α :=
  match options.lookup key with
  | none => .ok default
  | some value => value.choose ofWord

/-- The policies that named options ask for. -/
def BuildPolicy.ofOptions (options : List (Text × OptionValue)) : Except Mistake BuildPolicy := do
  let onCollision ← optionOr .overwrite CollisionPolicy.ofWord "on_collision".toList options
  let onOverflow ← optionOr .ignore OverflowPolicy.ofWord "on_overflow".toList options
  return { onCollision, onOverflow }

end ErrorCatalog
