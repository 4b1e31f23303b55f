import ErrorCatalog.Log.Directive

/-!
# `ErrorCatalog/Log/Filter.lean` — which entries are shown

A filter is a list of directives. They work in two ways.

* Directives without a span name and without the value of a field look at each entry itself. The
  most specific one that is about the entry decides, and of two about the same things the later one.
* Directives with a span name or a field look at spans. Every span that one of them is about is
  shown, and has a *scope*: inside it everything is let through up to the threshold of those whose
  tests the span passes. This comes on top of what the others let through.

Nothing is shown that is more detailed than the most detailed directive. Directives that were
replaced by later ones still count for that.

Directives are written as a comma-separated list: `warn,errgen_ingest=debug`. A list that cannot be
read gives no filter at all; a list without directives lets errors through and nothing else.
-/

set_option autoImplicit false

namespace ErrorCatalog

/-- A filter is a list of directives. -/
structure Filter where
  directives : List Directive

/-- The directives that no later one is about the same as. -/
def withoutReplaced : List Directive → List Directive
  | [] => []
  | d :: rest =>
    if rest.any d.isAboutSame then withoutReplaced rest else d :: withoutReplaced rest

/-- The most specific directive; of equally specific ones the last. -/
def mostSpecific? (ds : List Directive) : Option Directive :=
  ds.foldl (fun best d =>
    match best with
    | none => some d
    | some b => if b.isMoreSpecific d then some b else some d) none

/-- The spans that are shown around a place, and their scopes. -/
structure Enclosure where
  spans : List Span := []
  scopes : List Threshold := []

namespace Filter

/-! ## 1. Directives that look at entries -/

def forEntries (f : Filter) : List Directive := f.directives.filter (·.looksAtEntries)

/-- Whether the deciding one of some directives lets a level through. -/
def decides (ds : List Directive) (level : Level) : Bool :=
  match mostSpecific? ds with
  | none => false
  | some d => d.threshold.admits level

/-- Whether an event is let through for itself. A field has to be found in it. -/
def admitsEventAlone (f : Filter) (e : Event) : Bool :=
  decides (f.forEntries.filter (·.concernsEvent e)) e.level

/-- Whether a span is let through for itself. Its fields do not matter. -/
def admitsSpanAlone (f : Filter) (s : Span) : Bool :=
  decides (f.forEntries.filter (·.concerns s.target)) s.level

/-! ## 2. Directives that look at spans -/

def forSpans (f : Filter) : List Directive := f.directives.filter (·.looksAtSpans)

/-- The most detailed level that is let through inside spans. -/
def mostInside (f : Filter) : Threshold := .maxOf (f.forSpans.map (·.threshold))

/-- The most detailed level that is shown at all. While the value of a field is to be tested, no
span can be left out for its level. -/
def most (f : Filter) : Threshold :=
  if (withoutReplaced f.forSpans).any (·.testsValue) then some .trace
  else .maxOf (f.directives.map (·.threshold))

/-- The scope of a span, if some directive is about it. -/
def scope? (f : Filter) (s : Span) : Option Threshold :=
  match (withoutReplaced f.forSpans).filter (·.concernsSpan s) with
  | [] => none
  | ds => some (.maxOf ((ds.filter (·.passesSpan s)).map (·.threshold)))

/-- Whether being inside one of the scopes lets a level through. -/
def admitsInside (f : Filter) (scopes : List Threshold) (level : Level) : Bool :=
  f.mostInside.admits level && scopes.any (·.admits level)

/-! ## 3. Entries -/

/-- Whether a span is shown, inside the given scopes. -/
def admitsSpan (f : Filter) (scopes : List Threshold) (s : Span) : Bool :=
  f.most.admits s.level &&
    ((f.scope? s).isSome || f.admitsInside scopes s.level || f.admitsSpanAlone s)

/-- Whether an event is shown, inside the given scopes. -/
def admitsEvent (f : Filter) (scopes : List Threshold) (e : Event) : Bool :=
  f.most.admits e.level && (f.admitsInside scopes e.level || f.admitsEventAlone e)

/-- What is around a place inside one more span. -/
def enter (f : Filter) (around : Enclosure) (s : Span) : Enclosure :=
  if f.admitsSpan around.scopes s then
    ⟨around.spans ++ [s], around.scopes ++ (f.scope? s).toList⟩
  else around

/-- What is around a place inside the given spans, outermost first. -/
def enclosure (f : Filter) (spans : List Span) : Enclosure := spans.foldl f.enter {}

/-- What is left of an entry: the spans that are shown around it, or nothing. -/
def apply (f : Filter) : Entry → Option Entry
  | .opened outer span =>
    let around := f.enclosure outer
    if f.admitsSpan around.scopes span then some (.opened around.spans span) else none
  | .happened spans event =>
    let around := f.enclosure spans
    if f.admitsEvent around.scopes event then some (.happened around.spans event) else none
  | .closed outer span =>
    let around := f.enclosure outer
    if f.admitsSpan around.scopes span then some (.closed around.spans span) else none

/-! ## 4. Reading -/

/-- The filter that a comma-separated list describes, if every part of it can be read. -/
def ofText? (given : Text) : Option Filter := do
  let directives ← ((Text.pieces (· == ',') given).filter (· ≠ [])).mapM Directive.ofText?
  return ⟨if directives.isEmpty then [{ threshold := some .error }] else directives⟩

end Filter

end ErrorCatalog
