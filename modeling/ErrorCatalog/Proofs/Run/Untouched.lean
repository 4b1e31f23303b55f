import ErrorCatalog.Program
import ErrorCatalog.Proofs.Run.Effect

/-!
# `ErrorCatalog/Proofs/Run/Untouched.lean` — runs that leave the files alone

Everything that can go wrong before the first delivery goes wrong while the program only reads: the
settings file is read, then the input, and both are read whole. So a program that fails there leaves every
file and every directory as it was, wherever in the settings or in the input the fault is
(`Job.run_keeps_files`). A dry run delivers to a shelf, and leaves the files alone however it ends.

The log is set aside. Lines on the standard error stream are no files; a log file is one, and it is
created before anything else happens.
-/

set_option autoImplicit false

namespace ErrorCatalog

/-! ## 1. Settings -/

section Settings

variable (input : ByteArray) (t : FileTree)

theorem tree_effect_loadSettings (path : Path) : ((loadSettings path).effect input t).2 = t := by
  unfold loadSettings
  rw [Script.effect_bind]
  rfl

theorem tree_effect_loadSettingsIfAny (config : Option Path) :
    ((loadSettingsIfAny config).effect input t).2 = t := by
  cases config with
  | none => rfl
  | some path => exact tree_effect_loadSettings input t path

/-! ## 2. Plans -/

theorem tree_effect_generate_of_dryRun {plan : Plan} (hdry : plan.dryRun = true) :
    ((generate plan).effect input t).2 = t := by
  cases hcatalog : plan.input.catalog plan.policy t input with
  | error cause => rw [effect_generate_of_error input t plan hcatalog]
  | ok catalog =>
    obtain ⟨spans, heffect⟩ := effect_generate_of_ok input t plan hcatalog
    rw [heffect, Plan.destination, if_pos hdry, effect_deliverRendered_none]
    rfl

theorem effect_generateAndExit (plan : Plan) :
    (generateAndExit plan).effect input t =
      ((match ((generate plan).effect input t).1 with
        | .error e => .failure ("generate".toList :: e.chain)
        | .ok report => .success report.summary), ((generate plan).effect input t).2) := by
  unfold generateAndExit
  rw [Script.effect, Script.effect_bind]
  cases ((generate plan).effect input t).1 with
  | error e => rfl
  | ok report => rfl

end Settings

/-! ## 3. The program -/

variable {around : Surroundings} {words : List Text} {input : Input} {overrides : Settings}
  {config : Option Path} {dryRun : Bool} {log : LogSettings}

/-- A program without a log file does to the files what is asked for, and nothing before. -/
theorem Job.run_eq_effect
    (hwords : Invocation.ofWords around.isTerminal words =
      .ok ⟨.generate input overrides config dryRun, log⟩) (hlog : log.file = none)
    (clock : Clock) (standard : ByteArray) (tree : FileTree) :
    let effect := (Request.generate input overrides config dryRun).script.effect standard tree
    ((Job.ofWords around words).run clock standard tree).1 = effect.1 ∧
      ((Job.ofWords around words).run clock standard tree).2.tree = effect.2 := by
  intro effect
  have hjob : Job.ofWords around words =
      ⟨log.logger around.logVariable, (Request.generate input overrides config dryRun).script⟩ := by
    unfold Job.ofWords
    rw [hwords]
    dsimp only
    rw [hlog, openLog]
  rw [hjob]
  exact Script.run_eq_effect standard hlog clock _ ⟨tree, []⟩

/-- **A program that fails before its first delivery leaves the files alone, and so does a dry run.** If
the settings cannot be loaded, or the input cannot be, the failure is reported and no file or directory
has changed. With the dry run asked for, none has changed however the program ends. -/
theorem Job.run_keeps_files
    (hwords : Invocation.ofWords around.isTerminal words =
      .ok ⟨.generate input overrides config dryRun, log⟩) (hlog : log.file = none)
    (clock : Clock) (standard : ByteArray) (tree : FileTree) :
    let logger := log.logger around.logVariable
    let settings := ((loadSettingsIfAny config).run logger clock standard ⟨tree, []⟩).1
    let ended := (Job.ofWords around words).run clock standard tree
    (∀ chain, settings = .error chain → ended.1 = .failure chain ∧ ended.2.tree = tree) ∧
    (∀ file, settings = .ok file →
      let plan := Plan.ofSettings input file overrides dryRun
      ∀ cause, ((load [] plan.input plan.policy).run logger clock standard ⟨tree, []⟩).1 =
          .error cause →
        ended.1 = .failure
            ("generate".toList :: (RunError.load plan.input.displayName cause).chain) ∧
          ended.2.tree = tree) ∧
    (dryRun = true → ended.2.tree = tree) := by
  intro logger settings ended
  obtain ⟨hexit, htree⟩ := Job.run_eq_effect hwords hlog clock standard tree
  have hsettings : settings = ((loadSettingsIfAny config).effect standard tree).1 :=
    (Script.run_eq_effect standard hlog clock (loadSettingsIfAny config) ⟨tree, []⟩).1
  unfold Request.script at hexit htree
  rw [Script.effect_bind, tree_effect_loadSettingsIfAny, ← hsettings] at hexit htree
  refine ⟨fun chain h => ?_, ?_, fun hdry => ?_⟩
  · rw [h] at hexit htree
    exact ⟨hexit, htree⟩
  · intro file h plan cause hload
    rw [fst_run_load] at hload
    rw [h] at hexit htree
    dsimp only at hexit htree
    rw [effect_generateAndExit, effect_generate_of_error standard tree plan hload] at hexit htree
    exact ⟨hexit, htree⟩
  · cases houtcome : settings with
    | error chain =>
      rw [houtcome] at htree
      exact htree
    | ok file =>
      rw [houtcome] at htree
      dsimp only at htree
      rw [effect_generateAndExit, tree_effect_generate_of_dryRun standard tree hdry] at htree
      exact htree

/-- A name is used twice, in the last line of the input, and that is rejected. -/
theorem Job.run_keeps_files_of_reused_name :
    let words := ["generate", "in", "--on-collision", "reject"].map String.toList
    let tree : FileTree :=
      ⟨[(["in".toList], .file (Text.encode "code|text\nA|x\na|y\n".toList))], []⟩
    let ended := (Job.ofWords {} words).run ⟨[], 0, [], []⟩ .empty tree
    ∃ log, Invocation.ofWords false words =
        .ok ⟨.generate (.file (.ofString "in")) { onCollision := some .reject } none false, log⟩ ∧
      log.file = none ∧ ended.2.tree = tree ∧
      ended.1 = .failure ["generate".toList, "load records from in".toList,
        "record name A on line 3 collides with line 2".toList] := by
  intro words tree ended
  have hasked : (Invocation.ofWords false words).toOption.map (fun i => (i.request, i.log.file)) =
      some (.generate (.file (.ofString "in")) { onCollision := some .reject } none false, none) := by
    decide +kernel
  obtain ⟨log, hwords, hlog⟩ : ∃ log, Invocation.ofWords false words =
      .ok ⟨.generate (.file (.ofString "in")) { onCollision := some .reject } none false, log⟩ ∧
        log.file = none := by
    cases hinvocation : Invocation.ofWords false words with
    | error reason =>
      rw [hinvocation] at hasked
      cases hasked
    | ok invocation =>
      rw [hinvocation] at hasked
      obtain ⟨hrequest, hfile⟩ := Prod.mk.inj (Option.some.inj hasked)
      exact ⟨invocation.log, by rw [← hrequest], hfile⟩
  have hcatalog : (Input.file (.ofString "in")).catalog ⟨.reject, .ignore⟩ tree .empty =
      .error (.collision (.ofLabel "A".toList) 2 3) := by
    have hread : tree.read (.ofString "in") = .ok (Text.encode "code|text\nA|x\na|y\n".toList) := rfl
    rw [Input.catalog, Input.contents, hread]
    dsimp only
    rw [catalogOfBytes, Source.ofBytes?, Text.decode?_encode]
    rfl
  obtain ⟨-, hload, -⟩ := @Job.run_keeps_files {} words _ _ _ _ log hwords hlog ⟨[], 0, [], []⟩ .empty
    tree
  obtain ⟨hexit, htree⟩ := hload {} rfl (.collision (.ofLabel "A".toList) 2 3)
    ((fst_run_load _ _ _ _ _ _ _).trans hcatalog)
  have hchain : "generate".toList ::
      (RunError.load "in".toList (.collision (.ofLabel "A".toList) 2 3)).chain =
        ["generate".toList, "load records from in".toList,
          "record name A on line 3 collides with line 2".toList] := by decide +kernel
  have hended : ended = (Job.ofWords {} words).run ⟨[], 0, [], []⟩ .empty tree := rfl
  rw [hended]
  exact ⟨log, hwords, hlog, htree, hexit.trans (congrArg Exit.failure hchain)⟩

end ErrorCatalog
