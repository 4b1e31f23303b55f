import ErrorCatalog.Proofs.Delivery.Below
import ErrorCatalog.Proofs.Run.Loading
import ErrorCatalog.Proofs.Text.Bytes

/-!
# `ErrorCatalog/Proofs/Run/Preview.lean` — a dry run shows what a real run will do

A dry run and a real run of one plan have their first two stages in common, and differ in where the
artifacts go. What a delivery reports does not depend on the files: whenever delivering below a root
succeeds, the report is the one that could have been written down before (`of_fst_run_deliverAll`, by
induction on the artifacts). So a run that succeeds reports what its catalog decides, `Plan.report`, and
a dry run always does, once there is a catalog.

The two reports differ in the locations only, and there the difference is the root: the place of an
artifact below the root is the root joined with its place on the shelf (`pathBelow_eq`). This needs no
assumption on the file name. Where a name replaces the root or leads out of it, it does so in both.
-/

set_option autoImplicit false

namespace ErrorCatalog

variable (logger : Script.Logger) (clock : Clock) (input : ByteArray) (w : Script.World)

/-! ## 1. Deliveries -/

theorem exists_of_map_eq_ok {ε α β : Type} {f : α → β} {outcome : Except ε α} {b : β}
    (h : outcome.map f = .ok b) : ∃ a, outcome = .ok a ∧ f a = b := by
  cases outcome with
  | error e => cases h
  | ok a => exact ⟨a, rfl, Except.ok.inj h⟩

/-- Where an artifact goes: below a root, or to the shelf. -/
def Artifact.delivered (root : Option Path) (a : Artifact) : Delivered :=
  match root with
  | none => a.shelved
  | some path => a.deliveredTo (a.pathBelow path)

/-- What is reported of artifacts that were all delivered. -/
def deliveries (root : Option Path) (rendered : List (Language × List Artifact)) :
    List LanguageReport :=
  rendered.map fun (l, artifacts) => ⟨l, artifacts.map (Artifact.delivered root)⟩

theorem Artifact.pathBelow_eq (a : Artifact) (root : Path) :
    a.pathBelow root = root.join (shelfPath a.language a.fileName).spelling :=
  Path.join_join_name root a.language.isName_id a.fileName

theorem of_fst_run_writeArtifact {spans : List Span} {a : Artifact} {path : Path} {d : Delivered}
    (h : ((writeArtifact spans a path).run logger clock input w).1 = .ok d) :
    d = a.deliveredTo path := by
  unfold writeArtifact Script.run at h
  cases hwrite : (Script.changed w.tree (w.tree.write path (Text.encode a.contents))).1 with
  | error cause =>
    simp only [hwrite] at h
    cases h
  | ok _ =>
    simp only [hwrite] at h
    exact (Except.ok.inj h).symm

theorem of_fst_run_deliver {spans : List Span} {root : Path} {a : Artifact} {d : Delivered}
    (h : ((deliver spans root a).run logger clock input w).1 = .ok d) :
    d = a.delivered (some root) := by
  unfold deliver at h
  -- A path without a parent is written to at once, for any other the directory is made first.
  cases hparent : (a.pathBelow root).parent? with
  | none =>
    simp only [hparent] at h
    exact of_fst_run_writeArtifact logger clock input w h
  | some directory =>
    simp only [hparent, Script.run] at h
    cases hmade : (w.tree.makeDirectories directory).1 with
    | error cause =>
      simp only [hmade] at h
      cases h
    | ok _ =>
      simp only [hmade] at h
      exact of_fst_run_writeArtifact logger clock input _ h

/-- **What is reported of artifacts that were delivered**, by induction on them: the files that a delivery
leaves do not matter to the report of the next. -/
theorem of_fst_run_deliverAll {spans : List Span} {root : Path} {artifacts : List Artifact} :
    ∀ {w : Script.World} {ds : List Delivered},
      ((deliverAll spans root artifacts).run logger clock input w).1 = .ok ds →
      ds = artifacts.map (Artifact.delivered (some root)) := by
  induction artifacts with
  | nil =>
    intro w ds h
    exact (Except.ok.inj h).symm
  | cons a rest ih =>
    intro w ds h
    rw [deliverAll, Script.run_bind] at h
    cases hfirst : ((deliver spans root a).run logger clock input w).1 with
    | error fault =>
      rw [hfirst] at h
      cases h
    | ok first =>
      rw [hfirst] at h
      dsimp only at h
      rw [Script.run_bind] at h
      obtain ⟨others, hothers, rfl⟩ := exists_of_map_eq_ok h
      rw [of_fst_run_deliver logger clock input w hfirst, ih hothers, List.map_cons]

/-- The same for the languages, one after the other. -/
theorem of_fst_run_deliverLanguages {spans : List Span} {root : Path}
    {rendered : List (Language × List Artifact)} :
    ∀ {w : Script.World} {reports : List LanguageReport},
      ((deliverLanguages spans root rendered).run logger clock input w).1 = .ok reports →
      reports = deliveries (some root) rendered := by
  induction rendered with
  | nil =>
    intro w reports h
    exact (Except.ok.inj h).symm
  | cons p rest ih =>
    obtain ⟨l, artifacts⟩ := p
    intro w reports h
    rw [deliverLanguages, Script.run_bind] at h
    cases hfirst : ((deliverAll spans root artifacts).run logger clock input w).1 with
    | error e =>
      rw [hfirst] at h
      cases h
    | ok delivered =>
      rw [hfirst] at h
      dsimp only at h
      rw [Script.run_bind] at h
      obtain ⟨others, hothers, rfl⟩ := exists_of_map_eq_ok h
      rw [of_fst_run_deliverAll logger clock input hfirst, ih hothers]
      rfl

/-! ## 2. Runs -/

theorem fst_run_render (outer : List Span) (catalog : Catalog) (languages : List Language)
    (package : Option Text) :
    ((render outer catalog languages package).run logger clock input w).1 =
      renderLanguages catalog languages package := by
  rw [render, fst_run_inSpan]
  rfl

section Output

variable (outer : List Span) (root : Option Path) (rendered : List (Language × List Artifact))

theorem fst_run_output :
    ∃ spans, ((output outer root rendered).run logger clock input w).1 =
      ((deliverRendered spans root rendered).run logger clock input w).1 := by
  refine ⟨outer ++ [stage "output" []], ?_⟩
  rw [output, fst_run_inSpan, Script.run_bind]
  cases ((deliverRendered _ root rendered).run logger clock input w).1 with
  | error e => rfl
  | ok reports => rfl

theorem fst_run_output_none :
    ((output outer none rendered).run logger clock input w).1 = .ok (deliveries none rendered) := by
  obtain ⟨spans, hrun⟩ := fst_run_output logger clock input w outer none rendered
  rw [hrun]
  rfl

variable {outer root rendered}

theorem of_fst_run_output {reports : List LanguageReport}
    (h : ((output outer root rendered).run logger clock input w).1 = .ok reports) :
    reports = deliveries root rendered := by
  cases root with
  | none =>
    rw [fst_run_output_none] at h
    exact (Except.ok.inj h).symm
  | some path =>
    obtain ⟨spans, hrun⟩ := fst_run_output logger clock input w outer (some path) rendered
    rw [hrun] at h
    exact of_fst_run_deliverLanguages logger clock input h

end Output

namespace Plan

/-- Where the artifacts of a run go. -/
def destination (plan : Plan) : Option Path :=
  if plan.dryRun then none else some plan.outputDirectory

/-- What is reported of a run in which nothing failed. -/
def report (plan : Plan) (catalog : Catalog) : RunReport where
  sourceName := plan.input.displayName
  outputDirectory := plan.outputDirectory
  attributes := catalog.width
  records := catalog.size
  languages := deliveries plan.destination (renderLanguages catalog plan.languages plan.package)
  dryRun := plan.dryRun

/-- What a plan ends with when it is carried out. -/
def outcome (plan : Plan) : Except RunError RunReport :=
  ((generate plan).run logger clock input w).1

variable (plan : Plan)

theorem outcome_of_error {cause : LoadError}
    (h : plan.input.catalog plan.policy w.tree input = .error cause) :
    plan.outcome logger clock input w = .error (.load plan.input.displayName cause) := by
  rw [outcome, generate, fst_run_inSpan, Script.run_bind, fst_run_load, h]
  rfl

/-- If there is a catalog, a run ends as its last stage does. -/
theorem outcome_of_ok {catalog : Catalog}
    (h : plan.input.catalog plan.policy w.tree input = .ok catalog) :
    ∃ outer after, plan.outcome logger clock input w =
      ((output outer plan.destination
          (renderLanguages catalog plan.languages plan.package)).run logger clock input after).1.map
        fun reports => { plan.report catalog with languages := reports } := by
  rw [outcome, generate, fst_run_inSpan, Script.run_bind, fst_run_load, h]
  dsimp only
  rw [Script.run_bind, fst_run_render, Script.run_bind]
  -- The last stage starts on what the other two left, which is their log lines.
  exact ⟨_, _, rfl⟩

theorem eq_report_of_outcome {report : RunReport}
    (h : plan.outcome logger clock input w = .ok report) :
    ∃ catalog, plan.input.catalog plan.policy w.tree input = .ok catalog ∧
      report = plan.report catalog := by
  cases hcatalog : plan.input.catalog plan.policy w.tree input with
  | error cause =>
    rw [outcome_of_error logger clock input w plan hcatalog] at h
    cases h
  | ok catalog =>
    obtain ⟨outer, after, houtcome⟩ := outcome_of_ok logger clock input w plan hcatalog
    rw [houtcome] at h
    obtain ⟨reports, hreports, rfl⟩ := exists_of_map_eq_ok h
    rw [of_fst_run_output logger clock input after hreports]
    exact ⟨catalog, rfl, rfl⟩

/-- A dry run cannot fail once there is a catalog. -/
theorem outcome_of_dryRun (hdry : plan.dryRun = true) {catalog : Catalog}
    (h : plan.input.catalog plan.policy w.tree input = .ok catalog) :
    plan.outcome logger clock input w = .ok (plan.report catalog) := by
  obtain ⟨outer, after, houtcome⟩ := outcome_of_ok logger clock input w plan h
  have hdestination : plan.destination = none := by rw [destination, hdry, if_pos rfl]
  rw [houtcome, hdestination, fst_run_output_none, report, hdestination]
  rfl

end Plan

/-! ## 3. Two runs -/

/-- Whether a delivery to a shelf shows what one below a root reports. -/
structure Delivered.Previews (root : Path) (shown real : Delivered) : Prop where
  name_eq : real.name = shown.name
  language_eq : real.language = shown.language
  bytes_eq : real.bytes = shown.bytes
  location_eq : real.location = root.join shown.location.spelling

structure LanguageReport.Previews (root : Path) (shown real : LanguageReport) : Prop where
  language_eq : real.language = shown.language
  artifacts : List.Forall₂ (Delivered.Previews root) shown.artifacts real.artifacts

/-- Whether the report of a dry run shows what that of a real run says. -/
structure RunReport.Previews (root : Path) (shown real : RunReport) : Prop where
  sourceName_eq : real.sourceName = shown.sourceName
  attributes_eq : real.attributes = shown.attributes
  records_eq : real.records = shown.records
  languages : List.Forall₂ (LanguageReport.Previews root) shown.languages real.languages

/-- Whether a report lists all artifacts of a catalog in some languages, in order. -/
structure RunReport.Lists (report : RunReport) (languages : List Language) (package : Option Text)
    (catalog : Catalog) : Prop where
  attributes_eq : report.attributes = catalog.width
  records_eq : report.records = catalog.size
  languages_eq : report.languages.map (·.language) = languages
  names_eq : ∀ r ∈ report.languages,
    r.artifacts.map (·.name) = catalog.attributes.map Text.upperCamel ++ [enumerationName]
  bytes_eq : ∀ r ∈ report.languages, r.artifacts.map (·.bytes) =
    (renderAll catalog r.language package).map fun a => (Text.encode a.contents).size
  length_eq : ∀ r ∈ report.languages, r.artifacts.length = catalog.width + 1
  artifactCount_eq : report.artifactCount = languages.length * (catalog.width + 1)

theorem Artifact.previews_delivered (root : Path) (a : Artifact) :
    Delivered.Previews root (a.delivered none) (a.delivered (some root)) :=
  ⟨rfl, rfl, rfl, a.pathBelow_eq root⟩

theorem previews_deliveries (root : Path) (rendered : List (Language × List Artifact)) :
    List.Forall₂ (LanguageReport.Previews root) (deliveries none rendered)
      (deliveries (some root) rendered) := by
  rw [deliveries, deliveries, List.forall₂_map_left_iff, List.forall₂_map_right_iff,
    List.forall₂_same]
  rintro ⟨l, artifacts⟩ -
  refine ⟨rfl, ?_⟩
  rw [List.forall₂_map_left_iff, List.forall₂_map_right_iff, List.forall₂_same]
  exact fun a _ => a.previews_delivered root

theorem Plan.lists_report (plan : Plan) (catalog : Catalog) :
    (plan.report catalog).Lists plan.languages plan.package catalog := by
  have hlanguages : (plan.report catalog).languages = plan.languages.map fun l =>
      ⟨l, (renderAll catalog l plan.package).map (Artifact.delivered plan.destination)⟩ := by
    rw [report, deliveries, renderLanguages, List.map_map]
    rfl
  have hname : ∀ a : Artifact, (a.delivered plan.destination).name = a.name := by
    intro a
    cases plan.destination <;> rfl
  have hbytes : ∀ a : Artifact,
      (a.delivered plan.destination).bytes = (Text.encode a.contents).size := by
    intro a
    rw [Text.size_encode]
    cases plan.destination <;> rfl
  constructor
  case attributes_eq => rfl
  case records_eq => rfl
  case languages_eq =>
    rw [hlanguages, List.map_map]
    exact List.map_id _
  case names_eq =>
    rw [hlanguages, List.forall_mem_map]
    intro l _
    rw [List.map_map, ← map_name_renderAll catalog l plan.package]
    exact List.map_congr_left fun a _ => hname a
  case bytes_eq =>
    rw [hlanguages, List.forall_mem_map]
    intro l _
    rw [List.map_map]
    exact List.map_congr_left fun a _ => hbytes a
  case length_eq =>
    rw [hlanguages, List.forall_mem_map]
    intro l _
    rw [List.length_map, length_renderAll]
  case artifactCount_eq =>
    rw [RunReport.artifactCount, hlanguages, total_map]
    simp only [List.length_map, length_renderAll, total_const]

/-- **A dry run is a faithful preview.** It fails exactly if loading the input fails, and then a real run
fails with the same error. If a real run succeeds, so does a dry run on the same files, with the same
report but for the places, and each place is the output directory joined with the one that was shown.
Either way a report lists, for each language in order, every artifact with its size. -/
theorem Plan.dry_run_previews (plan : Plan) :
    (∀ e, { plan with dryRun := true }.outcome logger clock input w = .error e ↔
      ∃ cause, ((load [] plan.input plan.policy).run logger clock input w).1 = .error cause ∧
        e = .load plan.input.displayName cause) ∧
    (∀ e, { plan with dryRun := true }.outcome logger clock input w = .error e →
      { plan with dryRun := false }.outcome logger clock input w = .error e) ∧
    (∀ real, { plan with dryRun := false }.outcome logger clock input w = .ok real →
      ∃ shown, { plan with dryRun := true }.outcome logger clock input w = .ok shown ∧
        shown.Previews plan.outputDirectory real) ∧
    (∀ dryRun report, { plan with dryRun }.outcome logger clock input w = .ok report →
      ∃ catalog, ((load [] plan.input plan.policy).run logger clock input w).1 = .ok catalog ∧
        report.Lists plan.languages plan.package catalog) := by
  rw [fst_run_load]
  have hdry : ∀ e, { plan with dryRun := true }.outcome logger clock input w = .error e ↔
      ∃ cause, plan.input.catalog plan.policy w.tree input = .error cause ∧
        e = .load plan.input.displayName cause := by
    intro e
    cases hcatalog : plan.input.catalog plan.policy w.tree input with
    | error cause =>
      rw [outcome_of_error logger clock input w { plan with dryRun := true } hcatalog]
      simp [eq_comm]
    | ok catalog =>
      rw [outcome_of_dryRun logger clock input w { plan with dryRun := true } rfl hcatalog]
      simp
  refine ⟨hdry, ?_, ?_, ?_⟩
  · intro e h
    obtain ⟨cause, hcatalog, rfl⟩ := (hdry e).mp h
    exact outcome_of_error logger clock input w { plan with dryRun := false } hcatalog
  · intro real h
    obtain ⟨catalog, hcatalog, rfl⟩ :=
      eq_report_of_outcome logger clock input w { plan with dryRun := false } h
    refine ⟨_, outcome_of_dryRun logger clock input w { plan with dryRun := true } rfl hcatalog, ?_⟩
    exact ⟨rfl, rfl, rfl, previews_deliveries plan.outputDirectory _⟩
  · intro dryRun report h
    obtain ⟨catalog, hcatalog, rfl⟩ := eq_report_of_outcome logger clock input w { plan with dryRun } h
    exact ⟨catalog, hcatalog, lists_report { plan with dryRun } catalog⟩

/-- An attribute that starts at the root takes its artifact there, and the dry run says so. -/
example :
    let tree : FileTree := ⟨[(["in".toList], .file (Text.encode "b|/c\nx|y\n".toList))], []⟩
    let plan (dryRun : Bool) : Plan :=
      { input := .file (.ofString "in"), outputDirectory := .ofString "out", languages := [.go],
        policy := {}, package := none, dryRun }
    let places (dryRun : Bool) : Option (List Path) :=
      ((plan dryRun).outcome .silent ⟨[], 0, [], []⟩ .empty ⟨tree, []⟩).toOption.map fun report =>
        report.languages.flatMap fun r => r.artifacts.map (·.location)
    places true =
      some [.ofString "go/B.go", .ofString "/c.go", .ofString "go/ErrorEnum.go"] ∧
    places false =
      some [.ofString "out/go/B.go", .ofString "/c.go", .ofString "out/go/ErrorEnum.go"] := by
  decide +kernel

end ErrorCatalog
