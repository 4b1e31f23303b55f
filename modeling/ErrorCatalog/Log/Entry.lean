import ErrorCatalog.Text

/-!
# `ErrorCatalog/Log/Entry.lean` — what a run tells its log

A run reports *events* (something happened, with named fields) and *spans* (a stage began or ended,
with named fields). An event belongs to the spans that are open when it happens, outermost first.

Entries are data. Whether an entry is shown is decided by `ErrorCatalog/Log/Filter.lean`, how it
looks by `ErrorCatalog/Log/Layout.lean`; the run itself knows neither. Elapsed times are the one
thing an entry cannot hold, because they depend on the clock; a field of that kind is a mark for
the reader of the clock to fill in.
-/

set_option autoImplicit false

namespace ErrorCatalog

/-- The severity of an entry. -/
inductive Level where
  | error
  | warn
  | info
  | debug
  | trace
deriving DecidableEq

/-- How much detail a level stands for; a smaller number is more severe. -/
def Level.rank : Level → Nat
  | .error => 1
  | .warn => 2
  | .info => 3
  | .debug => 4
  | .trace => 5

/-- The name of a level in capitals. -/
def Level.label : Level → Text
  | .error => "ERROR".toList
  | .warn => "WARN".toList
  | .info => "INFO".toList
  | .debug => "DEBUG".toList
  | .trace => "TRACE".toList

inductive FieldValue where
  | text (value : Text)
  | count (value : Nat)
  | flag (value : Bool)
  /-- The milliseconds since the innermost open span began. -/
  | elapsed
deriving DecidableEq

/-- A named value. -/
structure LogField where
  name : Text
  value : FieldValue
deriving DecidableEq

/-- A stage of a run. -/
structure Span where
  target : Text
  level : Level
  name : Text
  fields : List LogField
deriving DecidableEq

/-- Something that happened. -/
structure Event where
  target : Text
  level : Level
  message : Text
  fields : List LogField
deriving DecidableEq

/-- What is reported, with the spans that are open at that time, outermost first. -/
inductive Entry where
  | opened (outer : List Span) (span : Span)
  | happened (spans : List Span) (event : Event)
  | closed (outer : List Span) (span : Span)
deriving DecidableEq

def textField (name : String) (value : Text) : LogField := ⟨name.toList, .text value⟩

def countField (name : String) (value : Nat) : LogField := ⟨name.toList, .count value⟩

def flagField (name : String) (value : Bool) : LogField := ⟨name.toList, .flag value⟩

def durationField : LogField := ⟨"duration_ms".toList, .elapsed⟩

end ErrorCatalog
