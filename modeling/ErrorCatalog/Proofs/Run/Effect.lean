import ErrorCatalog.Proofs.Run.Preview

/-!
# `ErrorCatalog/Proofs/Run/Effect.lean` — what a script does to the files

Of what a script does, the log is a large part and mostly not what is asked about. `Script.effect`
carries out a script on the files and leaves the log out. Unless log lines go to a file, that is what
carrying it out does to the files, and the result is the same (`run_eq_effect`): a log line on the
standard error stream is seen by no later action.

Most scripts of a run only read. Their effect is written down here as a pair of what they give and the
files they were given.
-/

set_option autoImplicit false

namespace ErrorCatalog

namespace Script

variable {α β : Type} (input : ByteArray) (t : FileTree)

/-! ## 1. Scripts without their log -/

/-- Carries out a script on files, without its log. -/
def effect (input : ByteArray) : Script α → FileTree → α × FileTree
  | .done result, t => (result, t)
  | .report _ next, t => next.effect input t
  | .fetch path next, t => (next (t.read path)).effect input t
  | .fetchInput next, t => (next input).effect input t
  | .makeDirectories path next, t =>
    (next (t.makeDirectories path).1).effect input (t.makeDirectories path).2
  | .store path contents next, t =>
    (next (changed t (t.write path contents)).1).effect input (changed t (t.write path contents)).2
  | .touch path next, t =>
    (next (changed t (t.append path .empty)).1).effect input (changed t (t.append path .empty)).2

theorem tree_log {logger : Logger} (hlog : logger.file = none) (clock : Clock) (w : World)
    (entry : Entry) : (w.log logger clock entry).tree = w.tree := by
  unfold World.log
  rw [hlog]
  split
  · rfl
  · rfl

/-- **A log that goes to no file changes nothing** of what a script gives and of the files it leaves. -/
theorem run_eq_effect {logger : Logger} (hlog : logger.file = none) (clock : Clock) (s : Script α)
    (w : World) :
    (s.run logger clock input w).1 = (s.effect input w.tree).1 ∧
      (s.run logger clock input w).2.tree = (s.effect input w.tree).2 := by
  induction s generalizing w with
  | done result => exact ⟨rfl, rfl⟩
  | report entry next ih =>
    have h := ih (w.log logger clock entry)
    rw [tree_log hlog] at h
    exact h
  | fetch path next ih => exact ih _ w
  | fetchInput next ih => exact ih _ w
  | makeDirectories path next ih => exact ih _ { w with tree := _ }
  | store path contents next ih => exact ih _ { w with tree := _ }
  | touch path next ih => exact ih _ { w with tree := _ }

theorem effect_bind (s : Script α) (f : α → Script β) :
    (s.bind f).effect input t = (f (s.effect input t).1).effect input (s.effect input t).2 := by
  induction s generalizing t with
  | done result => rfl
  | report entry next ih => exact ih t
  | fetch path next ih => exact ih _ t
  | fetchInput next ih => exact ih _ t
  | makeDirectories path next ih => exact ih _ _
  | store path contents next ih => exact ih _ _
  | touch path next ih => exact ih _ _

theorem effect_reportAll (entries : List Entry) : (reportAll entries).effect input t = ((), t) := by
  induction entries with
  | nil => rfl
  | cons entry rest ih => exact ih

end Script

/-! ## 2. The scripts of a run -/

section Stages

variable (input : ByteArray) (t : FileTree)

theorem effect_inSpan {α : Type} (outer : List Span) (span : Span) (body : List Span → Script α) :
    (inSpan outer span body).effect input t = (body (outer ++ [span])).effect input t := by
  unfold inSpan
  rw [Script.effect, Script.effect_bind]
  rfl

theorem effect_fetch (i : Input) : i.fetch.effect input t = (i.contents t input, t) := by
  cases i with
  | file path => rfl
  | standardInput => rfl

theorem effect_loadBytes (spans : List Span) (policy : BuildPolicy) (name : Text)
    (bytes : ByteArray) :
    (loadBytes spans policy name bytes).effect input t = (catalogOfBytes policy name bytes, t) := by
  unfold loadBytes catalogOfBytes
  cases Source.ofBytes? name bytes with
  | none => rfl
  | some source =>
    dsimp only [Script.effect]
    rw [buildAndReport, Script.effect_bind, reportNotices, Script.effect_reportAll]
    rfl

theorem effect_load (outer : List Span) (i : Input) (policy : BuildPolicy) :
    (load outer i policy).effect input t = (i.catalog policy t input, t) := by
  unfold load Input.catalog
  rw [effect_inSpan, Script.effect_bind, effect_fetch]
  cases i.contents t input with
  | error cause => rfl
  | ok bytes =>
    dsimp only
    rw [Script.effect_bind, effect_loadBytes]
    cases catalogOfBytes policy i.displayName bytes with
    | error e => rfl
    | ok catalog => rfl

theorem effect_render (outer : List Span) (catalog : Catalog) (languages : List Language)
    (package : Option Text) :
    (render outer catalog languages package).effect input t =
      (renderLanguages catalog languages package, t) := by
  unfold render
  rw [effect_inSpan]
  rfl

theorem effect_output (outer : List Span) (root : Option Path)
    (rendered : List (Language × List Artifact)) :
    (output outer root rendered).effect input t =
      (deliverRendered (outer ++ [stage "output" []]) root rendered).effect input t := by
  unfold output
  rw [effect_inSpan, Script.effect_bind]
  cases hrun : (deliverRendered (outer ++ [stage "output" []]) root rendered).effect input t with
  | mk outcome after =>
    cases outcome with
    | error e => rfl
    | ok reports => rfl

theorem effect_deliverRendered_none (spans : List Span)
    (rendered : List (Language × List Artifact)) :
    (deliverRendered spans none rendered).effect input t = (.ok (deliveries none rendered), t) := rfl

variable (plan : Plan)

theorem effect_generate_of_error {cause : LoadError}
    (h : plan.input.catalog plan.policy t input = .error cause) :
    (generate plan).effect input t = (.error (.load plan.input.displayName cause), t) := by
  unfold generate
  rw [effect_inSpan, Script.effect_bind, effect_load, h]
  rfl

/-- If there is a catalog, a run does to the files what its deliveries do. -/
theorem effect_generate_of_ok {catalog : Catalog}
    (h : plan.input.catalog plan.policy t input = .ok catalog) :
    ∃ spans, (generate plan).effect input t =
      ((deliverRendered spans plan.destination
        (renderLanguages catalog plan.languages plan.package)).effect input t).map
          (Except.map fun reports => { plan.report catalog with languages := reports }) id := by
  unfold generate
  rw [effect_inSpan, Script.effect_bind, effect_load, h]
  dsimp only
  rw [Script.effect_bind, effect_render, Script.effect_bind, effect_output]
  exact ⟨_, rfl⟩

end Stages

end ErrorCatalog
