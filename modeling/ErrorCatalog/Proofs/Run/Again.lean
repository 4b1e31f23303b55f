import ErrorCatalog.Proofs.Run.Written

/-!
# `ErrorCatalog/Proofs/Run/Again.lean` — a run that is repeated

Deliveries that succeeded can be made once more. No directory is missing then and every file can be
written, so what is done to the files is a list of writes, `FileTree.overwriteAll`.

Not each of these writes is without effect. Artifacts may share a location, and then the earlier one puts
back for a moment what had been replaced. But a write is lost in the next one at its location
(`overwriteAll_overwrite`), and the last one at a location finds its own contents there. So in the end the
tree is what it was, down to the order in which it lists its nodes (`overwriteAll_eq_self`).

A log file would grow with each run, so what is said about runs is about those without one.
-/

set_option autoImplicit false

namespace ErrorCatalog

variable {t u : FileTree} {l : Location}

/-! ## 1. Writes -/

namespace FileTree

def overwriteAll (t : FileTree) (writes : List (Location × ByteArray)) : FileTree :=
  writes.foldl (fun t w => t.overwrite w.1 w.2) t

theorem overwriteAll_cons (t : FileTree) (w : Location × ByteArray)
    (rest : List (Location × ByteArray)) :
    t.overwriteAll (w :: rest) = (t.overwrite w.1 w.2).overwriteAll rest := rfl

variable {writes : List (Location × ByteArray)}

/-- A write to a location that is written to again leaves nothing, if the location was taken before. -/
theorem overwriteAll_overwrite (hl : l ≠ []) (htaken : t.node? l ≠ none)
    (hwrites : ∀ w ∈ writes, w.1 ≠ []) (hmem : l ∈ writes.map (·.1)) (contents : ByteArray) :
    (t.overwrite l contents).overwriteAll writes = t.overwriteAll writes := by
  induction writes generalizing t with
  | nil => exact absurd hmem List.not_mem_nil
  | cons w rest ih =>
    obtain ⟨m, other⟩ := w
    obtain ⟨hm, hrest⟩ := List.forall_mem_cons.mp hwrites
    rw [overwriteAll_cons, overwriteAll_cons]
    dsimp only at hm ⊢
    by_cases hlm : l = m
    · rw [← hlm, overwrite_overwrite hl]
    · -- The write to `l` moves behind the one to `m`, nearer to the one it is lost in.
      have hlater : l ∈ rest.map (·.1) := (List.mem_cons.mp hmem).resolve_left hlm
      have hnext : (t.overwrite m other).node? l ≠ none := by
        rw [node?_overwrite hm, if_neg hlm]
        exact htaken
      rw [overwrite_comm hl hm hlm htaken, ih hnext hrest hlater]

/-- Writes change nothing in the end if the last one at each location changes nothing. -/
theorem overwriteAll_eq_self (hwrites : ∀ w ∈ writes, w.1 ≠ [] ∧ t.node? w.1 ≠ none)
    (hlast : ∀ before w later, writes = before ++ w :: later → w.1 ∉ later.map (·.1) →
      t.overwrite w.1 w.2 = t) :
    t.overwriteAll writes = t := by
  induction writes with
  | nil => rfl
  | cons w rest ih =>
    obtain ⟨⟨hne, htaken⟩, hrest⟩ := List.forall_mem_cons.mp hwrites
    have hothers : t.overwriteAll rest = t := ih hrest fun before v later hsplit =>
      hlast (w :: before) v later (congrArg (w :: ·) hsplit)
    rw [overwriteAll_cons]
    by_cases hmem : w.1 ∈ rest.map (·.1)
    · rw [overwriteAll_overwrite hne htaken (fun v hv => (hrest v hv).1) hmem, hothers]
    · rw [hlast [] w rest rfl hmem, hothers]

end FileTree

/-! ## 2. Deliveries -/

section Deliveries

variable {root : Path} {artifacts : List Artifact}

/-- The write that delivers an artifact. -/
def Artifact.written (root : Path) (home : Location) (a : Artifact) : Location × ByteArray :=
  (a.destination root home, Text.encode a.contents)

/-- Where all files and directories are there already, deliveries are writes. -/
theorem FileTree.delivers_of_holds
    (h : ∀ a ∈ artifacts, t.Holds (a.pathBelow root) (a.destination root t.home)) :
    Delivers root t artifacts (t.overwriteAll (artifacts.map (Artifact.written root t.home))) := by
  induction artifacts generalizing t with
  | nil => exact .nil t
  | cons a rest ih =>
    obtain ⟨hfirst, hrest⟩ := List.forall_mem_cons.mp h
    have hemit := emit_of_accepts hfirst.room hfirst.accepts
    have hkeeps := keeps_of_emit hemit
    refine .cons hemit (ih ?_)
    exact fun b hb => (hrest b hb).of_keeps hkeeps

/-- The last artifact that was delivered to a location finds its own contents there. -/
theorem Delivers.overwrite_last {before later : List Artifact} {a : Artifact}
    (h : Delivers root t (before ++ a :: later) u)
    (hlast : ∀ b ∈ later, b.destination root t.home ≠ a.destination root t.home) :
    u.overwrite (a.destination root t.home) (Text.encode a.contents) = u := by
  have hholds : u.Holds (a.pathBelow root) (a.destination root t.home) := h.holds (by simp)
  have hnode := h.node?_of_last rfl hlast
  rw [← h.overwritten_eq] at hnode
  exact FileTree.put_of_node? hholds.accepts.ne_nil hnode

/-- **What was delivered can be delivered again, and nothing changes.** -/
theorem Delivers.again (h : Delivers root t artifacts u) : Delivers root u artifacts u := by
  have hhome : u.home = t.home := h.keeps.home_eq
  have hsame : u.overwriteAll (artifacts.map (Artifact.written root t.home)) = u := by
    refine FileTree.overwriteAll_eq_self ?_ fun before w later hsplit hlater => ?_
    · rw [List.forall_mem_map]
      exact fun a ha => ⟨(h.holds ha).accepts.ne_nil, (h.holds ha).node?_ne_none⟩
    · obtain ⟨earlier, rest, rfl, rfl, hrest⟩ := List.map_eq_append_iff.mp hsplit
      obtain ⟨a, last, rfl, rfl, rfl⟩ := List.map_eq_cons_iff.mp hrest
      refine h.overwrite_last fun b hb heq => hlater ?_
      exact List.mem_map.mpr ⟨b.written root t.home, List.mem_map_of_mem hb, heq⟩
  have hagain : Delivers root u artifacts
      (u.overwriteAll (artifacts.map (Artifact.written root u.home))) := by
    refine FileTree.delivers_of_holds fun a ha => ?_
    rw [hhome]
    exact h.holds ha
  rwa [hhome, hsame] at hagain

end Deliveries

/-! ## 3. Runs -/

/-- The places of all artifacts that were delivered, in order. -/
def RunReport.locations (r : RunReport) : List Path :=
  r.languages.flatMap fun l => l.artifacts.map (·.location)

namespace Plan

/-- All that is to be delivered, in order. -/
def artifacts (plan : Plan) (catalog : Catalog) : List Artifact :=
  (renderLanguages catalog plan.languages plan.package).flatMap (·.2)

variable {plan : Plan} {catalog : Catalog}

theorem destination_of_real (hdry : plan.dryRun = false) :
    plan.destination = some plan.outputDirectory := by
  rw [destination, hdry]
  rfl

theorem locations_report (hdry : plan.dryRun = false) (catalog : Catalog) :
    (plan.report catalog).locations =
      (plan.artifacts catalog).map (·.pathBelow plan.outputDirectory) := by
  rw [RunReport.locations, report, destination_of_real hdry, artifacts, deliveries, List.flatMap_map,
    List.map_flatMap]
  refine List.flatMap_congr fun p _ => ?_
  rw [List.map_map]
  rfl

/-- What a run read from a file can be read again, if no artifact was delivered there. -/
theorem catalog_of_delivers {path : Path} (hfile : plan.input = .file path) {input : ByteArray}
    (hcatalog : plan.input.catalog plan.policy t input = .ok catalog)
    (h : Delivers plan.outputDirectory t (plan.artifacts catalog) u)
    (hother : ∀ a ∈ plan.artifacts catalog,
      u.resolve? (a.pathBelow plan.outputDirectory) ≠ u.resolve? path) (input' : ByteArray) :
    plan.input.catalog plan.policy u input' = .ok catalog := by
  rw [hfile, Input.catalog, Input.contents] at hcatalog ⊢
  cases hread : t.read path with
  | error cause =>
    rw [hread] at hcatalog
    cases hcatalog
  | ok bytes =>
    -- No artifact went to the location of the input, and what is there is no new directory.
    obtain ⟨l, n, hplace, hnode⟩ := FileTree.node?_of_read hread
    have hnot : ∀ a ∈ plan.artifacts catalog, a.destination plan.outputDirectory t.home ≠ l := by
      intro a ha heq
      refine hother a ha ?_
      rw [(h.holds ha).accepts.resolve?, heq, h.keeps.resolve? hplace]
    have hsame : u.node? l = t.node? l := by
      refine (h.node?_of_forall_ne hnot).resolve_right fun ⟨hnone, _⟩ => ?_
      rw [hnone] at hnode
      cases hnode
    have hagain : u.read path = .ok bytes := by
      refine FileTree.read_of_keeps h.keeps hread fun m hm => ?_
      obtain rfl := Option.some.inj (hplace.symm.trans hm)
      exact hsame
    rw [hread] at hcatalog
    rw [hagain]
    exact hcatalog

variable {logger : Script.Logger} (hlog : logger.file = none) (clock : Clock) (input : ByteArray)
  (hdry : plan.dryRun = false) {w : Script.World}
include hlog hdry

/-- A run whose artifacts can be delivered succeeds, and delivers them. -/
theorem run_of_delivers (hcatalog : plan.input.catalog plan.policy w.tree input = .ok catalog)
    (h : Delivers plan.outputDirectory w.tree (plan.artifacts catalog) u) :
    plan.outcome logger clock input w = .ok (plan.report catalog) ∧
      ((generate plan).run logger clock input w).2.tree = u := by
  obtain ⟨hresult, htree⟩ := Script.run_eq_effect input hlog clock (generate plan) w
  obtain ⟨spans, heffect⟩ := effect_generate_of_ok input w.tree plan hcatalog
  rw [heffect, destination_of_real hdry, deliverRendered,
    effect_deliverLanguages spans input h] at hresult htree
  refine ⟨?_, htree⟩
  rw [outcome, hresult, report, destination_of_real hdry]
  rfl

/-- A run that succeeds has delivered all artifacts of the catalog. -/
theorem delivers_of_outcome {report : RunReport}
    (h : plan.outcome logger clock input w = .ok report) :
    ∃ catalog, plan.input.catalog plan.policy w.tree input = .ok catalog ∧
      report = plan.report catalog ∧
      Delivers plan.outputDirectory w.tree (plan.artifacts catalog)
        ((generate plan).run logger clock input w).2.tree := by
  obtain ⟨catalog, hcatalog, hreport⟩ := eq_report_of_outcome logger clock input w plan h
  refine ⟨catalog, hcatalog, hreport, ?_⟩
  rcases stopsAt_or_delivers plan.outputDirectory
    (renderLanguages catalog plan.languages plan.package) w.tree with
    ⟨l, a, t', fault, u, hstops⟩ | ⟨u, hall⟩
  · obtain ⟨hresult, -⟩ := Script.run_eq_effect input hlog clock (generate plan) w
    obtain ⟨spans, heffect⟩ := effect_generate_of_ok input w.tree plan hcatalog
    rw [heffect, destination_of_real hdry, deliverRendered,
      effect_deliverLanguages_of_stopsAt spans input hstops] at hresult
    rw [outcome, hresult] at h
    cases h
  · rw [(run_of_delivers hlog clock input hdry hcatalog hall).2]
    exact hall

/-- **A run that succeeds leaves its artifacts and changes nothing else, and it can be repeated.** At
every location that an artifact was delivered to are the contents of the last one. Elsewhere nothing has
changed but for new directories, and nothing is gone. If no artifact was delivered to the file that the
input was read from, the same run succeeds again, with the same report, and leaves the files as they
are. -/
theorem run_writes_and_repeats {path : Path} (hfile : plan.input = .file path) {report : RunReport}
    (h : plan.outcome logger clock input w = .ok report) :
    let after := ((generate plan).run logger clock input w).2.tree
    (∃ catalog, plan.input.catalog plan.policy w.tree input = .ok catalog ∧
      report.locations = (plan.artifacts catalog).map (·.pathBelow plan.outputDirectory) ∧
      (∀ p ∈ report.locations, ∃ l, after.resolve? p = some l) ∧
      ∀ earlier a later l, plan.artifacts catalog = earlier ++ a :: later →
        after.resolve? (a.pathBelow plan.outputDirectory) = some l →
        (∀ b ∈ later, after.resolve? (b.pathBelow plan.outputDirectory) ≠ some l) →
          w.tree.node? l = some .null ∨ after.node? l = some (.file (Text.encode a.contents))) ∧
    (∀ l, (∀ p ∈ report.locations, after.resolve? p ≠ some l) →
      after.node? l = w.tree.node? l ∨ w.tree.node? l = none ∧ after.node? l = some .directory) ∧
    w.tree.Keeps after ∧
    ((∀ p ∈ report.locations, after.resolve? p ≠ after.resolve? path) →
      ∀ clock' input' errors,
        plan.outcome logger clock' input' ⟨after, errors⟩ = .ok report ∧
          ((generate plan).run logger clock' input' ⟨after, errors⟩).2.tree = after) := by
  intro after
  obtain ⟨catalog, hcatalog, rfl, hdelivers⟩ := delivers_of_outcome hlog clock input hdry h
  rw [locations_report hdry]
  have hresolve : ∀ a ∈ plan.artifacts catalog, after.resolve? (a.pathBelow plan.outputDirectory) =
      some (a.destination plan.outputDirectory w.tree.home) := fun a ha =>
    (hdelivers.holds ha).accepts.resolve?
  refine ⟨⟨catalog, hcatalog, rfl, ?_, fun earlier a later l hsplit hl hlater => ?_⟩,
    fun l hl => ?_, hdelivers.keeps, fun hother clock' input' errors => ?_⟩
  · rw [List.forall_mem_map]
    exact fun a ha => ⟨_, hresolve a ha⟩
  · rw [hsplit] at hdelivers hresolve
    rw [hresolve a (by simp)] at hl
    have hlast : ∀ b ∈ later, b.destination plan.outputDirectory w.tree.home ≠ l := by
      intro b hb heq
      refine hlater b hb ?_
      rw [hresolve b (by simp [hb]), heq]
    rw [hdelivers.node?_of_last (Option.some.inj hl) hlast]
    unfold Node.overwritten
    split
    · exact Or.inl ‹_›
    · exact Or.inr rfl
  · refine hdelivers.node?_of_forall_ne fun a ha heq => ?_
    refine hl _ (List.mem_map_of_mem ha) ?_
    rw [hresolve a ha, heq]
  · have hagain := catalog_of_delivers hfile hcatalog hdelivers
      (fun a ha => hother _ (List.mem_map_of_mem ha)) input'
    exact run_of_delivers hlog clock' input' hdry (w := ⟨after, errors⟩) hagain hdelivers.again

end Plan

/-- Of four artifacts two share a location, and one leaves the directory of its language. -/
theorem Plan.run_writes_and_repeats_shared :
    let tree : FileTree := ⟨[(["in".toList], .file (Text.encode "a|A|../b\nx|1|2\n".toList))], []⟩
    let plan : Plan :=
      { input := .file (.ofString "in"), outputDirectory := .ofString "out", languages := [.go],
        policy := {}, package := none, dryRun := false }
    let clock : Clock := ⟨[], 0, [], []⟩
    let after := ((generate plan).run .silent clock .empty ⟨tree, []⟩).2.tree
    Script.Logger.silent.file = none ∧ ∃ report,
      plan.outcome .silent clock .empty ⟨tree, []⟩ = .ok report ∧
      report.locations.map after.resolve? =
        [some ["out".toList, "go".toList, "A.go".toList],
          some ["out".toList, "go".toList, "A.go".toList], some ["out".toList, "b.go".toList],
          some ["out".toList, "go".toList, "ErrorEnum.go".toList]] ∧
      after.resolve? (.ofString "in") = some ["in".toList] ∧
      plan.outcome .silent clock .empty ⟨after, []⟩ = .ok report ∧
      ((generate plan).run .silent clock .empty ⟨after, []⟩).2.tree = after := by
  intro tree plan clock after
  have hplaces : (plan.outcome .silent clock .empty ⟨tree, []⟩).toOption.map
      (fun report => report.locations.map after.resolve?) =
        some [some ["out".toList, "go".toList, "A.go".toList],
          some ["out".toList, "go".toList, "A.go".toList], some ["out".toList, "b.go".toList],
          some ["out".toList, "go".toList, "ErrorEnum.go".toList]] := by
    decide +kernel
  have hinput : after.resolve? (.ofString "in") = some ["in".toList] := by decide +kernel
  have hsilent : Script.Logger.silent.file = none := rfl
  have hdry : plan.dryRun = false := rfl
  have hfile : plan.input = .file (.ofString "in") := rfl
  cases houtcome : plan.outcome .silent clock .empty ⟨tree, []⟩ with
  | error e =>
    rw [houtcome] at hplaces
    cases hplaces
  | ok report =>
    rw [houtcome] at hplaces
    have hreport : report.locations.map after.resolve? = _ := Option.some.inj hplaces
    obtain ⟨-, -, -, hagain⟩ :=
      Plan.run_writes_and_repeats hsilent clock .empty hdry hfile houtcome
    have hafter : ((generate plan).run .silent clock .empty ⟨tree, []⟩).2.tree = after := rfl
    rw [hafter] at hagain
    clear_value after
    have hother : ∀ p ∈ report.locations, after.resolve? p ≠ after.resolve? (.ofString "in") := by
      intro p hp heq
      have hmem : after.resolve? p ∈ report.locations.map after.resolve? := List.mem_map_of_mem hp
      rw [hreport, heq, hinput] at hmem
      exact absurd hmem (by decide)
    obtain ⟨hsame, hfiles⟩ := hagain hother clock .empty []
    exact ⟨hsilent, report, rfl, hreport, hinput, hsame, hfiles⟩

end ErrorCatalog
