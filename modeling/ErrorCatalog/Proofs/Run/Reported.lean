import ErrorCatalog.Proofs.Run.Loading

/-!
# `ErrorCatalog/Proofs/Run/Reported.lean` — what a run tells its log

`Script.reported` looks at one kind of action only: the entries that a script reports when it is carried
out, in order. Which of them are shown is the business of the logger and is not looked at here; a warning
that the filter holds back has been reported all the same.

What a script reports is all that it leaves behind, if it changes no file itself (`LeavesLog`): the world
after it is the world before it with the reported entries logged, one after another. Loading is such a
script, and its entries are written down one by one (`reported_load`). Among them only what was noticed of
the rows can be a warning.
-/

set_option autoImplicit false

namespace ErrorCatalog

/-- Whether an entry is an event that warns. -/
def Entry.isWarning : Entry → Bool
  | .happened _ event => event.level = .warn
  | _ => false

namespace Script

variable {α β : Type} (logger : Logger) (clock : Clock) (input : ByteArray)

/-! ## 1. Scripts -/

/-- The entries that a script reports when it is carried out, in order. -/
def reported : Script α → World → List Entry
  | .done _, _ => []
  | .report entry next, w => entry :: next.reported (w.log logger clock entry)
  | .fetch path next, w => (next (w.tree.read path)).reported w
  | .fetchInput next, w => (next input).reported w
  | .makeDirectories path next, w =>
    (next (w.tree.makeDirectories path).1).reported
      { w with tree := (w.tree.makeDirectories path).2 }
  | .store path contents next, w =>
    (next (changed w.tree (w.tree.write path contents)).1).reported
      { w with tree := (changed w.tree (w.tree.write path contents)).2 }
  | .touch path next, w =>
    (next (changed w.tree (w.tree.append path .empty)).1).reported
      { w with tree := (changed w.tree (w.tree.append path .empty)).2 }

theorem reported_bind (s : Script α) (f : α → Script β) (w : World) :
    (s.bind f).reported logger clock input w =
      s.reported logger clock input w ++
        (f (s.run logger clock input w).1).reported logger clock input
          (s.run logger clock input w).2 := by
  induction s generalizing w with
  | done result => rfl
  | report entry next ih => exact congrArg (entry :: ·) (ih _)
  | fetch path next ih => exact ih _ _
  | fetchInput next ih => exact ih _ _
  | makeDirectories path next ih => exact ih _ _
  | store path contents next ih => exact ih _ _
  | touch path next ih => exact ih _ _

theorem reported_reportAll (entries : List Entry) (w : World) :
    (reportAll entries).reported logger clock input w = entries := by
  induction entries generalizing w with
  | nil => rfl
  | cons entry rest ih => exact congrArg (entry :: ·) (ih _)

/-- The world after log entries. -/
def World.logAll (w : World) (logger : Logger) (clock : Clock) (entries : List Entry) : World :=
  entries.foldl (fun w entry => w.log logger clock entry) w

theorem World.logAll_append (w : World) (entries others : List Entry) :
    w.logAll logger clock (entries ++ others) =
      (w.logAll logger clock entries).logAll logger clock others :=
  List.foldl_append

/-- Whether a script leaves nothing behind but its log. -/
def LeavesLog (s : Script α) : Prop :=
  ∀ w, (s.run logger clock input w).2 = w.logAll logger clock (s.reported logger clock input w)

variable {logger clock input}

theorem LeavesLog.done (result : α) : LeavesLog logger clock input (.done result) := fun _ => rfl

theorem LeavesLog.report {entry : Entry} {next : Script α} (h : LeavesLog logger clock input next) :
    LeavesLog logger clock input (.report entry next) :=
  fun w => h (w.log logger clock entry)

theorem LeavesLog.bind {s : Script α} {f : α → Script β} (hs : LeavesLog logger clock input s)
    (hf : ∀ a, LeavesLog logger clock input (f a)) : LeavesLog logger clock input (s.bind f) := by
  intro w
  rw [run_bind, reported_bind, World.logAll_append, ← hs w]
  exact hf _ _

theorem LeavesLog.reportAll (entries : List Entry) :
    LeavesLog logger clock input (Script.reportAll entries) := by
  induction entries with
  | nil => exact .done ()
  | cons entry rest ih => exact ih.report

variable (logger clock input)

/-- Whether a script gives a result and leaves nothing behind but its log, with the given warnings in
it. -/
structure Warns (s : Script α) (w : World) (result : α) (warnings : List Entry) : Prop where
  result_eq : (s.run logger clock input w).1 = result
  world_eq : (s.run logger clock input w).2 =
    w.logAll logger clock (s.reported logger clock input w)
  warnings_eq : (s.reported logger clock input w).filter Entry.isWarning = warnings

end Script

/-! ## 2. Loading -/

section Loading

variable {logger : Script.Logger} {clock : Clock} {input : ByteArray}

theorem reported_inSpan {α : Type} (outer : List Span) (span : Span) (body : List Span → Script α)
    (w : Script.World) :
    (inSpan outer span body).reported logger clock input w =
      .opened outer span ::
        ((body (outer ++ [span])).reported logger clock input w ++ [.closed outer span]) := by
  rw [inSpan, Script.reported, Script.World.log_opened, Script.reported_bind]
  rfl

theorem leavesLog_inSpan {α : Type} {outer : List Span} {span : Span} {body : List Span → Script α}
    (h : Script.LeavesLog logger clock input (body (outer ++ [span]))) :
    Script.LeavesLog logger clock input (inSpan outer span body) :=
  (h.bind fun result => (Script.LeavesLog.done result).report).report

theorem reported_buildAndReport (spans : List Span) (policy : BuildPolicy) (source : Source)
    (w : Script.World) :
    (buildAndReport spans policy source).reported logger clock input w =
      (buildCatalog policy source).1.map fun n => .happened spans n.event := by
  rw [buildAndReport, Script.reported_bind, reportNotices, Script.reported_reportAll]
  exact List.append_nil _

theorem leavesLog_buildAndReport (spans : List Span) (policy : BuildPolicy) (source : Source) :
    Script.LeavesLog logger clock input (buildAndReport spans policy source) :=
  (Script.LeavesLog.reportAll _).bind fun _ => .done _

theorem reported_loadBytes {name : Text} {bytes : ByteArray} {source : Source}
    (h : Source.ofBytes? name bytes = some source) (spans : List Span) (policy : BuildPolicy)
    (w : Script.World) :
    (loadBytes spans policy name bytes).reported logger clock input w =
      .happened spans (rowsEvent source) ::
        (buildCatalog policy source).1.map fun n => .happened spans n.event := by
  rw [loadBytes, h]
  dsimp only
  rw [Script.reported, reported_buildAndReport]

theorem leavesLog_loadBytes (spans : List Span) (policy : BuildPolicy) (name : Text)
    (bytes : ByteArray) : Script.LeavesLog logger clock input (loadBytes spans policy name bytes) := by
  unfold loadBytes
  cases Source.ofBytes? name bytes with
  | none => exact .done _
  | some source => exact (leavesLog_buildAndReport spans policy source).report

/-- The entry that tells of a loaded catalog, if there is one. -/
def loadedEntries (spans : List Span) : Except LoadError Catalog → List Entry
  | .error _ => []
  | .ok catalog => [.happened spans (finished "ingest complete"
      [countField "attributes" catalog.width, countField "records" catalog.size])]

/-- **What loading reports** of bytes that are read: its rows, what was noticed of them, and the catalog,
all inside its span. -/
theorem reported_load {i : Input} {bytes : ByteArray} {source : Source} {w : Script.World}
    (hcontents : i.contents w.tree input = .ok bytes)
    (hsource : Source.ofBytes? i.displayName bytes = some source) (outer : List Span)
    (policy : BuildPolicy) :
    let span := stage "ingest" [textField "source" i.displayName]
    let spans := outer ++ [span]
    (load outer i policy).reported logger clock input w =
      .opened outer span ::
        ((.happened spans (rowsEvent source) ::
          (buildCatalog policy source).1.map fun n => .happened spans n.event) ++
            loadedEntries spans (source.catalog policy) ++ [.closed outer span]) := by
  intro span spans
  have hfetch : i.fetch.reported logger clock input w = [] := by cases i <;> rfl
  unfold load
  rw [reported_inSpan, Script.reported_bind, hfetch, run_fetch, hcontents, List.nil_append]
  dsimp only
  rw [Script.reported_bind, fst_run_loadBytes, catalogOfBytes_of_source hsource,
    reported_loadBytes hsource]
  cases source.catalog policy with
  | error e => rfl
  | ok catalog => rfl

theorem leavesLog_load (outer : List Span) (i : Input) (policy : BuildPolicy) :
    Script.LeavesLog logger clock input (load outer i policy) := by
  have hfetch : Script.LeavesLog logger clock input i.fetch := by
    cases i with
    | file path => exact fun _ => rfl
    | standardInput => exact fun _ => rfl
  unfold load
  refine leavesLog_inSpan (hfetch.bind fun fetched => ?_)
  cases fetched with
  | error cause => exact .done _
  | ok bytes =>
    refine (leavesLog_loadBytes _ policy i.displayName bytes).bind fun result => ?_
    cases result with
    | error e => exact .done _
    | ok catalog => exact (Script.LeavesLog.done _).report

end Loading

end ErrorCatalog
