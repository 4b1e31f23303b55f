import ErrorCatalog.Log.Entry

/-!
# `ErrorCatalog/Log/Layout.lean` — log lines

Three layouts, each of one line per entry.

* *pretty*: level, the spans with their fields, the target if asked for, the message, the fields;
* *compact*: the same, but the fields of the spans come last;
* *json*: one object per entry, which always has a timestamp.

The first two can be preceded by a timestamp and painted with terminal escapes, and they show
events only. The json layout also shows the end of a span, as an event with the message `close`.

A layout does not read the clock. It is given a `Clock`, the text of the present time and the
durations of the innermost span, so a line is a function of its entry and that value.
-/

set_option autoImplicit false

namespace ErrorCatalog

/-- The looks of a log line. -/
inductive Layout where
  | pretty
  | compact
  | json
deriving DecidableEq

/-- What the clock says when an entry is written. -/
structure Clock where
  timestamp : Text
  /-- Milliseconds since the innermost span began. -/
  elapsed : Nat
  /-- The part of that time that was spent working, for people. -/
  busy : Text
  /-- The part of that time that was spent waiting, for people. -/
  idle : Text

/-- All choices about the look of a log. -/
structure LogStyle where
  layout : Layout := .pretty
  timestamps : Bool := false
  targets : Bool := false
  colors : Bool := false

/-! ## 1. Pretty and compact -/

def painted (colors : Bool) (rendition : Nat) (t : Text) : Text :=
  if colors then '\x1b' :: '[' :: Text.ofNat rendition ++ 'm' :: t ++ "\x1b[0m".toList else t

def boldRendition : Nat := 1
def dimRendition : Nat := 2
def italicRendition : Nat := 3

def Level.rendition : Level → Nat
  | .error => 31
  | .warn => 33
  | .info => 32
  | .debug => 34
  | .trace => 35

def FieldValue.plain (clock : Clock) : FieldValue → Text
  | .text value => value
  | .count value => Text.ofNat value
  | .flag true => "true".toList
  | .flag false => "false".toList
  | .elapsed => Text.ofNat clock.elapsed

/-- Fields as `name=value`, with a space between two. -/
def plainFields (colors : Bool) (clock : Clock) (fields : List LogField) : Text :=
  Text.joined [' '] <| fields.map fun f =>
    painted colors italicRendition f.name ++ painted colors dimRendition ['='] ++ f.value.plain clock

/-- The timestamp and the space after it, if asked for. -/
def timestampLead (style : LogStyle) (clock : Clock) : Text :=
  if style.timestamps then painted style.colors dimRendition clock.timestamp ++ [' '] else []

/-- The level on five columns, and the space after it. -/
def levelLead (style : LogStyle) (level : Level) : Text :=
  painted style.colors level.rendition (Text.padLeft ' ' 5 level.label) ++ [' ']

/-- The target, a colon and a space, if asked for. -/
def targetLead (style : LogStyle) (target : Text) : Text :=
  if style.targets then
    painted style.colors dimRendition target ++ painted style.colors dimRendition [':'] ++ [' ']
  else []

def spanWithFields (style : LogStyle) (clock : Clock) (s : Span) : Text :=
  painted style.colors boldRendition s.name ++
    (if s.fields.isEmpty then []
    else
      painted style.colors boldRendition ['\x7b'] ++ plainFields style.colors clock s.fields ++
        painted style.colors boldRendition ['\x7d']) ++
    painted style.colors dimRendition [':']

/-- The spans around an event, each with its fields, and a space if there is one. -/
def prettySpans (style : LogStyle) (clock : Clock) (spans : List Span) : Text :=
  spans.flatMap (spanWithFields style clock) ++ if spans.isEmpty then [] else [' ']

/-- The names of the spans around an event, and a space if there is one. -/
def compactSpans (style : LogStyle) (spans : List Span) : Text :=
  spans.flatMap (fun s => painted style.colors boldRendition s.name ++ [':']) ++
    if spans.isEmpty then [] else [' ']

/-- The fields of the spans around an event, each span's after a space. -/
def trailingFields (style : LogStyle) (clock : Clock) (spans : List Span) : Text :=
  spans.flatMap fun s =>
    if s.fields.isEmpty then []
    else ' ' :: painted style.colors dimRendition (plainFields style.colors clock s.fields)

def messageAndFields (style : LogStyle) (clock : Clock) (e : Event) : Text :=
  e.message ++ if e.fields.isEmpty then [] else ' ' :: plainFields style.colors clock e.fields

def prettyLine (style : LogStyle) (clock : Clock) (spans : List Span) (e : Event) : Text :=
  timestampLead style clock ++ levelLead style e.level ++ prettySpans style clock spans ++
    targetLead style e.target ++ messageAndFields style clock e

def compactLine (style : LogStyle) (clock : Clock) (spans : List Span) (e : Event) : Text :=
  timestampLead style clock ++ levelLead style e.level ++ compactSpans style spans ++
    targetLead style e.target ++ messageAndFields style clock e ++ trailingFields style clock spans

/-! ## 2. Json -/

/-- How one character is written in a json string. -/
def jsonChar (c : Char) : Text :=
  if c = '"' then ['\\', '"']
  else if c = '\\' then ['\\', '\\']
  else if c = '\n' then ['\\', 'n']
  else if c = '\r' then ['\\', 'r']
  else if c = '\t' then ['\\', 't']
  else if c.toNat = 8 then ['\\', 'b']
  else if c.toNat = 12 then ['\\', 'f']
  else if c.toNat < 32 then "\\u".toList ++ Text.padLeft '0' 4 (Text.ofNatHex c.toNat)
  else [c]

def jsonString (t : Text) : Text := '"' :: t.flatMap jsonChar ++ ['"']

def jsonObject (members : List (Text × Text)) : Text :=
  '\x7b' :: Text.joined [','] (members.map fun (name, value) => jsonString name ++ ':' :: value) ++
    ['\x7d']

def FieldValue.json (clock : Clock) : FieldValue → Text
  | .text value => jsonString value
  | value => value.plain clock

def jsonFields (clock : Clock) (fields : List LogField) : List (Text × Text) :=
  fields.map fun f => (f.name, f.value.json clock)

/-- A span: its fields and its name. -/
def jsonSpan (clock : Clock) (s : Span) : Text :=
  jsonObject (jsonFields clock s.fields ++ [("name".toList, jsonString s.name)])

/-- An entry as a json object. `current` is the innermost span, if there is one. -/
def jsonLine (style : LogStyle) (clock : Clock) (level : Level) (target : Text)
    (fields : List (Text × Text)) (current : Option Span) (spans : List Span) : Text :=
  jsonObject <|
    [("timestamp".toList, jsonString clock.timestamp), ("level".toList, jsonString level.label),
      ("fields".toList, jsonObject fields)] ++
    (if style.targets then [("target".toList, jsonString target)] else []) ++
    match current with
    | none => []
    | some s =>
      [("span".toList, jsonSpan clock s),
        ("spans".toList, '[' :: Text.joined [','] (spans.map (jsonSpan clock)) ++ [']'])]

/-- The fields of the event that stands for the end of a span. -/
def closeFields (clock : Clock) : List (Text × Text) :=
  [("message".toList, jsonString "close".toList), ("time.busy".toList, jsonString clock.busy),
    ("time.idle".toList, jsonString clock.idle)]

/-! ## 3. All layouts -/

/-- The line for an entry, without the line feed; `none` if the layout does not show the entry. -/
def LogStyle.line? (style : LogStyle) (clock : Clock) : Entry → Option Text
  | .opened _ _ => none
  | .happened spans e =>
    some <| match style.layout with
      | .pretty => prettyLine style clock spans e
      | .compact => compactLine style clock spans e
      | .json =>
        jsonLine style clock e.level e.target
          (("message".toList, jsonString e.message) :: jsonFields clock e.fields) spans.getLast? spans
  | .closed outer s =>
    match style.layout with
    | .json => some (jsonLine style clock s.level s.target (closeFields clock) (some s) outer)
    | _ => none

end ErrorCatalog
