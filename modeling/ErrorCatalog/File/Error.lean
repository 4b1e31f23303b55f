import ErrorCatalog.Text

/-!
# `ErrorCatalog/File/Error.lean` — why a file operation fails

One constructor per cause. The wording, with the number the operating system gives the cause, is in
`FileError.message` and nowhere else. Two causes are found before the system is asked and have no
number: bytes that are not UTF-8, and a path with a NUL character in it.
-/

set_option autoImplicit false

namespace ErrorCatalog

/-- The causes of a failed file operation. -/
inductive FileError where
  | notFound
  | alreadyExists
  | notADirectory
  | isADirectory
  | nameTooLong
  | nulInPath
  | notUtf8
  /-- Any other cause, with the system's number and wording. -/
  | system (code : Nat) (text : Text)
deriving DecidableEq

/-- The wording of a numbered cause. -/
def numberedMessage (text : Text) (code : Nat) : Text :=
  text ++ " (os error ".toList ++ Text.ofNat code ++ [')']

/-- The wording of a cause. -/
def FileError.message : FileError → Text
  | .notFound => numberedMessage "No such file or directory".toList 2
  | .alreadyExists => numberedMessage "File exists".toList 17
  | .notADirectory => numberedMessage "Not a directory".toList 20
  | .isADirectory => numberedMessage "Is a directory".toList 21
  | .nameTooLong => numberedMessage "File name too long".toList 36
  | .nulInPath => "file name contained an unexpected NUL byte".toList
  | .notUtf8 => "stream did not contain valid UTF-8".toList
  | .system code text => numberedMessage text code

end ErrorCatalog
