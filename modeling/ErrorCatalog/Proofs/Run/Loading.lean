import ErrorCatalog.Generate

/-!
# `ErrorCatalog/Proofs/Run/Loading.lean` — what loading gives

A run opens its spans before it looks at a file, and opening a span writes no log line, whatever the
filter and the style are (`log_opened`). So the files that the first stage finds are those that the run
was started on, also if one of them is the log file. What loading gives is then a function of the bytes of
the input: `Input.catalog` has no script in it, and `fst_run_load` says that it is what the script gives.
-/

set_option autoImplicit false

namespace ErrorCatalog

variable (logger : Script.Logger) (clock : Clock) (input : ByteArray) (w : Script.World)

/-! ## 1. Spans -/

theorem Script.World.log_opened (outer : List Span) (span : Span) :
    w.log logger clock (.opened outer span) = w := by
  have hline : logger.line? clock (.opened outer span) = none := by
    unfold Script.Logger.line? Filter.apply
    dsimp only
    split
    · rfl
    · rfl
  unfold log
  rw [hline]

/-- A span changes nothing of what its body gives. -/
theorem fst_run_inSpan {α : Type} (outer : List Span) (span : Span) (body : List Span → Script α) :
    ((inSpan outer span body).run logger clock input w).1 =
      ((body (outer ++ [span])).run logger clock input w).1 := by
  rw [inSpan, Script.run, Script.World.log_opened, Script.run_bind]
  rfl

/-! ## 2. The catalog of an input -/

/-- The catalog in bytes that are reported under a name. -/
def catalogOfBytes (policy : BuildPolicy) (name : Text) (bytes : ByteArray) :
    Except LoadError Catalog :=
  match Source.ofBytes? name bytes with
  | none => .error (.unavailable name .notUtf8)
  | some source => source.catalog policy

/-- The bytes of an input, given the files and the standard input. -/
def Input.contents (i : Input) (tree : FileTree) (standard : ByteArray) :
    Except FileError ByteArray :=
  match i with
  | .file path => tree.read path
  | .standardInput => .ok standard

def Input.catalog (i : Input) (policy : BuildPolicy) (tree : FileTree) (standard : ByteArray) :
    Except LoadError Catalog :=
  match i.contents tree standard with
  | .error cause => .error (.unavailable i.displayName cause)
  | .ok bytes => catalogOfBytes policy i.displayName bytes

theorem catalogOfBytes_of_source {name : Text} {bytes : ByteArray} {source : Source}
    (h : Source.ofBytes? name bytes = some source) (policy : BuildPolicy) :
    catalogOfBytes policy name bytes = source.catalog policy := by
  rw [catalogOfBytes, h]

theorem fst_run_buildAndReport (spans : List Span) (policy : BuildPolicy) (source : Source) :
    ((buildAndReport spans policy source).run logger clock input w).1 = source.catalog policy := by
  rw [buildAndReport, Script.run_bind]
  rfl

theorem fst_run_loadBytes (spans : List Span) (policy : BuildPolicy) (name : Text)
    (bytes : ByteArray) :
    ((loadBytes spans policy name bytes).run logger clock input w).1 =
      catalogOfBytes policy name bytes := by
  unfold loadBytes catalogOfBytes
  cases Source.ofBytes? name bytes with
  | none => rfl
  | some source => exact fst_run_buildAndReport logger clock input _ spans policy source

theorem run_fetch (i : Input) :
    i.fetch.run logger clock input w = (i.contents w.tree input, w) := by
  cases i with
  | file path => rfl
  | standardInput => rfl

/-- **Loading** gives the catalog in the bytes of the input. -/
theorem fst_run_load (outer : List Span) (i : Input) (policy : BuildPolicy) :
    ((load outer i policy).run logger clock input w).1 = i.catalog policy w.tree input := by
  unfold load Input.catalog
  rw [fst_run_inSpan, Script.run_bind, run_fetch]
  cases i.contents w.tree input with
  | error cause => rfl
  | ok bytes =>
    dsimp only
    rw [Script.run_bind, fst_run_loadBytes]
    cases catalogOfBytes policy i.displayName bytes with
    | error e => rfl
    | ok catalog => rfl

end ErrorCatalog
