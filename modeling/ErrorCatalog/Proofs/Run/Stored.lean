import ErrorCatalog.Proofs.Run.Preview

/-!
# `ErrorCatalog/Proofs/Run/Stored.lean` — which files a run stores, and in which order

`Script.stored` looks at one kind of action only: the paths at which a script stores a file when it is
carried out. The log is carried out as well, because what later actions find may depend on it; so what is
said here holds for a run with a log file, too.

Delivering is a row of steps of which the first that fails ends the row. Such a script stores at a beginning
of the paths it has in mind, and at all of them if it succeeds (`StoresInOrder`). That is kept when one such
script follows another (`StoresInOrder.bind`), which is all there is to the two nested loops of a delivery. So
a run stores the artifacts of its languages, one language after the other, and none of them a second time
(`Plan.stored_isPrefix`).
-/

set_option autoImplicit false

namespace ErrorCatalog

namespace Script

variable {α β ε δ : Type} (logger : Logger) (clock : Clock) (input : ByteArray)

/-! ## 1. Scripts -/

/-- The paths at which a script stores a file when it is carried out, in order. An attempt that fails is
one of them. -/
def stored : Script α → World → List Path
  | .done _, _ => []
  | .report entry next, w => next.stored (w.log logger clock entry)
  | .fetch path next, w => (next (w.tree.read path)).stored w
  | .fetchInput next, w => (next input).stored w
  | .makeDirectories path next, w =>
    (next (w.tree.makeDirectories path).1).stored { w with tree := (w.tree.makeDirectories path).2 }
  | .store path contents next, w =>
    path :: (next (changed w.tree (w.tree.write path contents)).1).stored
      { w with tree := (changed w.tree (w.tree.write path contents)).2 }
  | .touch path next, w =>
    (next (changed w.tree (w.tree.append path .empty)).1).stored
      { w with tree := (changed w.tree (w.tree.append path .empty)).2 }

theorem stored_bind (s : Script α) (f : α → Script β) (w : World) :
    (s.bind f).stored logger clock input w =
      s.stored logger clock input w ++
        (f (s.run logger clock input w).1).stored logger clock input (s.run logger clock input w).2 := by
  induction s generalizing w with
  | done result => rfl
  | report entry next ih => exact ih _
  | fetch path next ih => exact ih _ _
  | fetchInput next ih => exact ih _ _
  | makeDirectories path next ih => exact ih _ _
  | store path contents next ih => exact congrArg (path :: ·) (ih _ _)
  | touch path next ih => exact ih _ _

theorem stored_reportAll (entries : List Entry) (w : World) :
    (reportAll entries).stored logger clock input w = [] := by
  induction entries generalizing w with
  | nil => rfl
  | cons entry rest ih => exact ih _

/-! ## 2. Rows of steps -/

/-- Whether a script stores at a beginning of the given paths, and at all of them if it succeeds. -/
structure StoresInOrder (s : Script (Except ε α)) (paths : List Path) : Prop where
  isPrefix : ∀ w, s.stored logger clock input w <+: paths
  eq_of_ok : ∀ w a, (s.run logger clock input w).1 = .ok a → s.stored logger clock input w = paths

variable {logger clock input}

theorem StoresInOrder.done (result : Except ε α) :
    StoresInOrder logger clock input (.done result) [] :=
  ⟨fun _ => List.nil_prefix, fun _ _ _ => rfl⟩

/-- **One row of steps after another.** If the first row fails, the second stores nothing. -/
theorem StoresInOrder.bind {s : Script (Except ε α)} {f : Except ε α → Script (Except δ β)}
    {paths others : List Path} (hs : StoresInOrder logger clock input s paths)
    (herror : ∀ e, ∃ e', f (.error e) = .done (.error e'))
    (hok : ∀ a, StoresInOrder logger clock input (f (.ok a)) others) :
    StoresInOrder logger clock input (s.bind f) (paths ++ others) := by
  constructor
  case isPrefix =>
    intro w
    rw [stored_bind]
    cases hrun : (s.run logger clock input w).1 with
    | error e =>
      obtain ⟨e', he⟩ := herror e
      rw [he, stored, List.append_nil]
      exact (hs.isPrefix w).trans (List.prefix_append _ _)
    | ok a =>
      rw [hs.eq_of_ok w a hrun]
      exact (List.prefix_append_right_inj _).mpr ((hok a).isPrefix _)
  case eq_of_ok =>
    intro w b hb
    rw [run_bind] at hb
    rw [stored_bind]
    cases hrun : (s.run logger clock input w).1 with
    | error e =>
      obtain ⟨e', he⟩ := herror e
      rw [hrun, he] at hb
      cases hb
    | ok a =>
      rw [hrun] at hb
      rw [hs.eq_of_ok w a hrun, (hok a).eq_of_ok _ b hb]

theorem StoresInOrder.map {s : Script (Except ε α)} {paths : List Path}
    (hs : StoresInOrder logger clock input s paths) (g : Except ε α → Except δ β)
    (hg : ∀ e, ∃ e', g (.error e) = .error e') :
    StoresInOrder logger clock input (s.bind fun result => .done (g result)) paths := by
  rw [← List.append_nil paths]
  exact hs.bind (fun e => (hg e).imp fun e' he => by rw [he]) fun a => .done (g (.ok a))

end Script

/-! ## 3. Deliveries -/

section Deliveries

variable {logger : Script.Logger} {clock : Clock} {input : ByteArray}

theorem stored_inSpan {α : Type} (outer : List Span) (span : Span) (body : List Span → Script α)
    (w : Script.World) :
    (inSpan outer span body).stored logger clock input w =
      (body (outer ++ [span])).stored logger clock input w := by
  rw [inSpan, Script.stored, Script.World.log_opened, Script.stored_bind]
  exact List.append_nil _

theorem storesInOrder_writeArtifact (spans : List Span) (a : Artifact) (path : Path) :
    Script.StoresInOrder logger clock input (writeArtifact spans a path) [path] := by
  have hstored : ∀ w, (writeArtifact spans a path).stored logger clock input w = [path] := by
    intro w
    rw [writeArtifact, Script.stored]
    cases (Script.changed w.tree (w.tree.write path (Text.encode a.contents))).1 with
    | error cause => rfl
    | ok _ => rfl
  exact ⟨fun w => hstored w ▸ List.prefix_rfl, fun w _ _ => hstored w⟩

/-- A delivery stores one file, unless its directory cannot be made. -/
theorem storesInOrder_deliver (spans : List Span) (root : Path) (a : Artifact) :
    Script.StoresInOrder logger clock input (deliver spans root a) [a.pathBelow root] := by
  unfold deliver
  dsimp only
  cases (a.pathBelow root).parent? with
  | none => exact storesInOrder_writeArtifact spans a _
  | some directory =>
    have hwrite : Script.StoresInOrder logger clock input (writeArtifact spans a (a.pathBelow root)) _ :=
      storesInOrder_writeArtifact spans a (a.pathBelow root)
    constructor
    case isPrefix =>
      intro w
      rw [Script.stored]
      cases (w.tree.makeDirectories directory).1 with
      | error cause => exact List.nil_prefix
      | ok _ => exact hwrite.isPrefix _
    case eq_of_ok =>
      intro w d hd
      rw [Script.run] at hd
      rw [Script.stored]
      dsimp only at hd
      cases hmade : (w.tree.makeDirectories directory).1 with
      | error cause =>
        rw [hmade] at hd
        cases hd
      | ok _ =>
        rw [hmade] at hd
        exact hwrite.eq_of_ok _ d hd

theorem storesInOrder_deliverAll (spans : List Span) (root : Path) (artifacts : List Artifact) :
    Script.StoresInOrder logger clock input (deliverAll spans root artifacts)
      (artifacts.map (·.pathBelow root)) := by
  induction artifacts with
  | nil => exact .done _
  | cons a rest ih =>
    rw [deliverAll, List.map_cons, ← List.singleton_append]
    exact (storesInOrder_deliver spans root a).bind (fun fault => ⟨_, rfl⟩)
      fun first => ih.map (Except.map (first :: ·)) fun e => ⟨e, rfl⟩

theorem storesInOrder_deliverLanguages (spans : List Span) (root : Path)
    (rendered : List (Language × List Artifact)) :
    Script.StoresInOrder logger clock input (deliverLanguages spans root rendered)
      (rendered.flatMap fun p => p.2.map (·.pathBelow root)) := by
  induction rendered with
  | nil => exact .done _
  | cons p rest ih =>
    obtain ⟨l, artifacts⟩ := p
    rw [deliverLanguages, List.flatMap_cons]
    exact (storesInOrder_deliverAll spans root artifacts).bind (fun e => ⟨_, rfl⟩)
      fun delivered => ih.map (Except.map (⟨l, delivered⟩ :: ·)) fun e => ⟨e, rfl⟩

/-! ## 4. Runs -/

theorem stored_load (outer : List Span) (i : Input) (policy : BuildPolicy) (w : Script.World) :
    (load outer i policy).stored logger clock input w = [] := by
  have hfetch : i.fetch.stored logger clock input w = [] := by cases i <;> rfl
  have hbytes : ∀ spans name bytes w,
      (loadBytes spans policy name bytes).stored logger clock input w = [] := by
    intro spans name bytes w
    unfold loadBytes
    cases Source.ofBytes? name bytes with
    | none => rfl
    | some source =>
      dsimp only [Script.stored]
      rw [buildAndReport, Script.stored_bind, reportNotices, Script.stored_reportAll]
      rfl
  unfold load
  rw [stored_inSpan, Script.stored_bind, hfetch, List.nil_append]
  split
  · rfl
  · rw [Script.stored_bind, hbytes, List.nil_append]
    split
    · rfl
    · rfl

theorem stored_render (outer : List Span) (catalog : Catalog) (languages : List Language)
    (package : Option Text) (w : Script.World) :
    (render outer catalog languages package).stored logger clock input w = [] := by
  rw [render, stored_inSpan]
  rfl

theorem stored_output (outer : List Span) (root : Option Path)
    (rendered : List (Language × List Artifact)) (w : Script.World) :
    (output outer root rendered).stored logger clock input w =
      (deliverRendered (outer ++ [stage "output" []]) root rendered).stored logger clock input w := by
  unfold output
  rw [stored_inSpan, Script.stored_bind]
  split
  · exact List.append_nil _
  · exact List.append_nil _

namespace Plan

variable (plan : Plan)

/-- The paths of all artifacts of a catalog, one language after the other. -/
def paths (catalog : Catalog) : List Path :=
  plan.languages.flatMap fun l =>
    (renderAll catalog l plan.package).map (·.pathBelow plan.outputDirectory)

theorem stored_generate_of_error {cause : LoadError} (w : Script.World)
    (h : plan.input.catalog plan.policy w.tree input = .error cause) :
    (generate plan).stored logger clock input w = [] := by
  rw [generate, stored_inSpan, Script.stored_bind, stored_load, List.nil_append, fst_run_load, h]
  rfl

/-- If there is a catalog, a run stores what its last stage stores. -/
theorem stored_generate_of_ok {catalog : Catalog} (w : Script.World)
    (h : plan.input.catalog plan.policy w.tree input = .ok catalog) :
    ∃ spans after, (generate plan).stored logger clock input w =
      (deliverRendered spans plan.destination
        (renderLanguages catalog plan.languages plan.package)).stored logger clock input after := by
  rw [generate, stored_inSpan, Script.stored_bind, stored_load, List.nil_append, fst_run_load, h]
  dsimp only
  rw [Script.stored_bind, stored_render, List.nil_append, fst_run_render, Script.stored_bind,
    stored_output]
  exact ⟨_, _, List.append_nil _⟩

/-- **What a run stores** is a beginning of the artifacts of its languages, whatever else happens; and
nothing in a dry run. -/
theorem stored_isPrefix {catalog : Catalog} (w : Script.World)
    (h : plan.input.catalog plan.policy w.tree input = .ok catalog) :
    (generate plan).stored logger clock input w <+: plan.paths catalog ∧
      (plan.dryRun = true → (generate plan).stored logger clock input w = []) := by
  obtain ⟨spans, after, hstored⟩ := plan.stored_generate_of_ok w h
  have hpaths : plan.paths catalog = (renderLanguages catalog plan.languages plan.package).flatMap
      fun p => p.2.map (·.pathBelow plan.outputDirectory) := by
    rw [paths, renderLanguages, List.flatMap_map]
  rw [hstored, destination, hpaths]
  cases plan.dryRun with
  | true => exact ⟨List.nil_prefix, fun _ => rfl⟩
  | false =>
    exact ⟨(storesInOrder_deliverLanguages spans plan.outputDirectory _).isPrefix after,
      fun h => absurd h Bool.false_ne_true⟩

end Plan

end Deliveries

end ErrorCatalog
