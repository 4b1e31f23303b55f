import ErrorCatalog.Artifact.All
import ErrorCatalog.Catalog.Build
import ErrorCatalog.Delivery
import ErrorCatalog.Number.Total

/-!
# `ErrorCatalog/Generate.lean` — one run, from the input to the files

A run has three stages: load the catalog from the input, render every artifact for every language,
deliver the artifacts. All rendering happens before the first delivery, so a run that cannot load
its input has not touched a file, and a dry run — which delivers to a shelf that is thrown away —
differs from a real one in the last stage only.

Each stage is a span of the log. A span is closed on every way out of its stage, also when the stage
fails; `inSpan` is the only function that opens one.
-/

set_option autoImplicit false

namespace ErrorCatalog

/-! ## 1. What to do, and what came of it -/

inductive Input where
  | file (path : Path)
  | standardInput
deriving DecidableEq

/-- The path that stands for the standard input. -/
def standardInputPath : Text := ['-']

def Input.ofArgument (given : Text) : Input :=
  if given = standardInputPath then .standardInput else .file ⟨given⟩

/-- The name an input is reported under. -/
def Input.displayName : Input → Text
  | .file path => path.spelling
  | .standardInput => "<stdin>".toList

/-- All decisions about one run. -/
structure Plan where
  input : Input
  outputDirectory : Path
  languages : List Language
  policy : BuildPolicy
  package : Option Text
  dryRun : Bool
deriving DecidableEq

structure LanguageReport where
  language : Language
  artifacts : List Delivered
deriving DecidableEq

def LanguageReport.bytes (r : LanguageReport) : Nat := total Delivered.bytes r.artifacts

/-- What came of a run that succeeded. -/
structure RunReport where
  sourceName : Text
  outputDirectory : Path
  attributes : Nat
  records : Nat
  languages : List LanguageReport
  dryRun : Bool
deriving DecidableEq

/-- The number of artifacts delivered. -/
def RunReport.artifactCount (r : RunReport) : Nat := total (·.artifacts.length) r.languages

/-- Why a run failed. -/
inductive RunError where
  | load (input : Text) (error : LoadError)
  | deliver (language : Language) (error : DeliveryError)

/-- The wording of a run's failure, from the outside in. -/
def RunError.chain : RunError → List Text
  | .load input error => ("load records from ".toList ++ input) :: error.chain
  | .deliver language error =>
    ("emit ".toList ++ language.label ++ " artifacts".toList) :: error.chain

/-- A chain of wordings on one line. -/
def chainText (chain : List Text) : Text := Text.joined ": ".toList chain

/-! ## 2. Spans and events -/

/-- The target of the spans and of the events of a run as a whole. -/
def runTarget : Text := "errgen_cli::pipeline".toList

def stage (name : String) (fields : List LogField) : Span := ⟨runTarget, .info, name.toList, fields⟩

def inSpan {α : Type} (outer : List Span) (span : Span) (body : List Span → Script α) : Script α :=
  .report (.opened outer span) <|
    (body (outer ++ [span])).bind fun result => .report (.closed outer span) (.done result)

def finished (message : String) (fields : List LogField) : Event where
  target := runTarget
  level := .info
  message := message.toList
  fields := fields ++ [durationField]

def rowsEvent (source : Source) : Event where
  target := "errgen_ingest::rows".toList
  level := .debug
  message := "parsed input rows".toList
  fields := [textField "source" source.name, countField "rows" source.rows.length]

/-- The fields that tell the width of a row. -/
def widthFields (line found expected : Nat) : List LogField :=
  [countField "line" line, countField "found" found, countField "expected" expected]

/-- The event of something noticed while the catalog is built. Only a collision is a warning. -/
def Notice.event (notice : Notice) : Event :=
  let target := "errgen_ingest::builder".toList
  match notice with
  | .wideRow line found expected =>
    ⟨target, .debug, "row wider than header".toList, widthFields line found expected⟩
  | .narrowRow line found expected =>
    ⟨target, .debug, "padding short row".toList, widthFields line found expected⟩
  | .collision name line firstLine =>
    ⟨target, .warn, "record name collision, later row wins".toList,
      [textField "record" name.text, countField "line" line, countField "first_line" firstLine]⟩
  | .built attributes records =>
    ⟨target, .debug, "record table built".toList,
      [countField "attributes" attributes, countField "records" records]⟩

def reportNotices (spans : List Span) (notices : List Notice) : Script Unit :=
  Script.reportAll (notices.map fun n => .happened spans n.event)

/-! ## 3. The stages -/

def Input.fetch (input : Input) : Script (Except FileError ByteArray) :=
  match input with
  | .file path => Script.contentsOf path
  | .standardInput => Script.wholeInput.bind fun bytes => .done (.ok bytes)

/-- Builds the catalog of a source, and reports what was noticed of its rows. -/
def buildAndReport (spans : List Span) (policy : BuildPolicy) (source : Source) :
    Script (Except LoadError Catalog) :=
  let (notices, result) := buildCatalog policy source
  (reportNotices spans notices).bind fun () => .done result

def loadBytes (spans : List Span) (policy : BuildPolicy) (name : Text) (bytes : ByteArray) :
    Script (Except LoadError Catalog) :=
  match Source.ofBytes? name bytes with
  | none => .done (.error (.unavailable name .notUtf8))
  | some source =>
    .report (.happened spans (rowsEvent source)) (buildAndReport spans policy source)

def load (outer : List Span) (input : Input) (policy : BuildPolicy) :
    Script (Except LoadError Catalog) :=
  let name := input.displayName
  inSpan outer (stage "ingest" [textField "source" name]) fun spans =>
    input.fetch.bind fun fetched =>
      match fetched with
      | .error cause => .done (.error (.unavailable name cause))
      | .ok bytes =>
        (loadBytes spans policy name bytes).bind fun result =>
          match result with
          | .error e => .done (.error e)
          | .ok catalog =>
            .report (.happened spans (finished "ingest complete"
              [countField "attributes" catalog.width, countField "records" catalog.size]))
              (.done (.ok catalog))

def renderLanguages (catalog : Catalog) (languages : List Language) (package : Option Text) :
    List (Language × List Artifact) :=
  languages.map fun l => (l, renderAll catalog l package)

def render (outer : List Span) (catalog : Catalog) (languages : List Language)
    (package : Option Text) : Script (List (Language × List Artifact)) :=
  inSpan outer (stage "render" [countField "languages" languages.length]) fun spans =>
    let rendered := renderLanguages catalog languages package
    .report (.happened spans (finished "render complete"
      [countField "artifacts" (total (·.2.length) rendered)])) (.done rendered)

def shelveLanguages (rendered : List (Language × List Artifact)) : List LanguageReport :=
  rendered.map fun (l, artifacts) => ⟨l, artifacts.map (·.shelved)⟩

/-- Delivers the artifacts of each language below a root, up to the first that fails. -/
def deliverLanguages (spans : List Span) (root : Path) :
    List (Language × List Artifact) → Script (Except RunError (List LanguageReport))
  | [] => .done (.ok [])
  | (l, artifacts) :: rest =>
    (deliverAll spans root artifacts).bind fun outcome =>
      match outcome with
      | .error e => .done (.error (.deliver l e))
      | .ok delivered =>
        (deliverLanguages spans root rest).bind fun others => .done (others.map (⟨l, delivered⟩ :: ·))

/-- Delivers everything below a root, or to a shelf that is thrown away if there is none. -/
def deliverRendered (spans : List Span) (root : Option Path)
    (rendered : List (Language × List Artifact)) : Script (Except RunError (List LanguageReport)) :=
  match root with
  | none => .done (.ok (shelveLanguages rendered))
  | some path => deliverLanguages spans path rendered

/-- Delivers everything, as a stage. -/
def output (outer : List Span) (root : Option Path) (rendered : List (Language × List Artifact)) :
    Script (Except RunError (List LanguageReport)) :=
  inSpan outer (stage "output" []) fun spans =>
    (deliverRendered spans root rendered).bind fun outcome =>
      match outcome with
      | .error e => .done (.error e)
      | .ok reports =>
        .report (.happened spans (finished "output complete"
          [countField "files" (total (·.artifacts.length) reports)])) (.done (.ok reports))

def generate (plan : Plan) : Script (Except RunError RunReport) :=
  let name := plan.input.displayName
  inSpan [] (stage "generate" [textField "source" name, flagField "dry_run" plan.dryRun]) fun spans =>
    (load spans plan.input plan.policy).bind fun loaded =>
      match loaded with
      | .error e => .done (.error (.load name e))
      | .ok catalog =>
        (render spans catalog plan.languages plan.package).bind fun rendered =>
          (output spans (if plan.dryRun then none else some plan.outputDirectory) rendered).bind
            fun outcome => .done <| outcome.map fun reports =>
              { sourceName := name, outputDirectory := plan.outputDirectory,
                attributes := catalog.width, records := catalog.size, languages := reports,
                dryRun := plan.dryRun }

end ErrorCatalog
