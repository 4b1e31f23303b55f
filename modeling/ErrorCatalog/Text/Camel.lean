import ErrorCatalog.Text.Case

/-!
# `ErrorCatalog/Text/Camel.lean` — camel case

An attribute such as `error code` becomes `ErrorCode` or `errorCode`. The components of the name
are separated by a space, an underscore or a hyphen; the first character of each component is
upper-cased, the others are left alone, and the components are joined with nothing between them.
The lower form then lower-cases the first character **of the joined result**, not of the first
component: the two differ as soon as the upper case form of a letter is several letters (`ßa`
becomes `sSa`).
-/

set_option autoImplicit false

namespace ErrorCatalog

/-- The two camel case forms. -/
inductive CaseStyle where
  /-- The form `ErrorCode`. -/
  | upperCamel
  /-- The form `errorCode`. -/
  | lowerCamel
deriving DecidableEq

/-- The characters between the components of an attribute name. -/
def isComponentSeparator (c : Char) : Bool := c == ' ' || c == '_' || c == '-'

namespace Text

/-- A text with its first character in upper case. -/
def capitalized : Text → Text
  | [] => []
  | c :: rest => upper c ++ rest

/-- A text with its first character in lower case. -/
def decapitalized : Text → Text
  | [] => []
  | c :: rest => lower c ++ rest

/-- The form `ErrorCode` of an attribute name. -/
def upperCamel (t : Text) : Text := (pieces isComponentSeparator t).flatMap capitalized

/-- The form `errorCode` of an attribute name. -/
def lowerCamel (t : Text) : Text := (upperCamel t).decapitalized

/-- An attribute name in the given camel case. -/
def camel (style : CaseStyle) (t : Text) : Text :=
  match style with
  | .upperCamel => upperCamel t
  | .lowerCamel => lowerCamel t

end Text

example : Text.upperCamel "http_status-text".toList = "HttpStatusText".toList := by decide +kernel
example : Text.lowerCamel "HTTP status".toList = "hTTPStatus".toList := by decide +kernel
example : Text.lowerCamel "ßa".toList = "sSa".toList := by decide +kernel

end ErrorCatalog
