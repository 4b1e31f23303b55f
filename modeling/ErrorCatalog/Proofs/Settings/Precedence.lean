import Mathlib.Data.List.Destutter
import ErrorCatalog.Program
import ErrorCatalog.Proofs.Run.Stored

/-!
# `ErrorCatalog/Proofs/Settings/Precedence.lean` — how settings are merged

A setting that can be given at two places is taken from the first that gives it (`ByPrecedence`), and no
setting looks at another.

The languages are different in two ways. A place that gives none gives the empty list, and what is given is
a set: its order and its repetitions are lost. They are lost in two steps, and the second needs the first.
Leaving out what repeats the element before (`eraseReps`) leaves elements out only where equal ones stand side
by side, which sorting brings about; so `eraseReps_eq_destutter` holds of every list, and
`Language.inOrder_eq_dedup` of sorted ones.

What follows for runs is that they have one plan. A run then stores and reports language by language, in the
order of the plan, in which no language occurs twice.
-/

set_option autoImplicit false

namespace ErrorCatalog

/-! ## 1. Places -/

/-- Whether a setting is what the overrides give, else what the file gives, else the default. -/
structure ByPrecedence {α : Type} (override file default chosen : Option α) : Prop where
  of_override : ∀ value, override = some value → chosen = some value
  of_file : override = none → ∀ value, file = some value → chosen = some value
  of_default : override = none → file = none → chosen = default

theorem byPrecedence_or {α : Type} (override file default : Option α) :
    ByPrecedence override file default ((override.or file).or default) where
  of_override value h := by rw [h]; rfl
  of_file h value hvalue := by rw [h, hvalue]; rfl
  of_default h hfile := by rw [h, hfile]; rfl

theorem byPrecedence_getD {α : Type} (override file : Option α) (default : α) :
    ByPrecedence override file (some default) (some ((override.or file).getD default)) := by
  have h := byPrecedence_or override file (some default)
  rwa [Option.or_some] at h

/-! ## 2. Repetitions -/

theorem eraseRepsBy_loop_eq {α : Type} [DecidableEq α] (rest : List α) :
    ∀ (a : α) (kept : List α), List.eraseRepsBy.loop (· == ·) a rest kept =
      kept.reverse ++ rest.destutter' (· ≠ ·) a := by
  induction rest with
  | nil => intro a kept; simp [List.eraseRepsBy.loop]
  | cons b rest ih =>
    intro a kept
    by_cases h : a = b
    · simp [List.eraseRepsBy.loop, h, ih]
    · simp [List.eraseRepsBy.loop, h, beq_false_of_ne h, ih]

/-- Leaving out what repeats the element before it, for every list. -/
theorem eraseReps_eq_destutter {α : Type} [DecidableEq α] (xs : List α) :
    xs.eraseReps = xs.destutter (· ≠ ·) := by
  cases xs with
  | nil => rfl
  | cons a rest => exact eraseRepsBy_loop_eq rest a []

namespace Language

theorem eq_of_rank_eq {l m : Language} (h : l.rank = m.rank) : l = m := by
  cases l <;> cases m <;> first | rfl | cases h

theorem pairwise_mergeSort (languages : List Language) :
    (languages.mergeSort fun l m => l.rank ≤ m.rank).Pairwise (·.rank ≤ ·.rank) := by
  have h := @List.pairwise_mergeSort _ (fun l m : Language => decide (l.rank ≤ m.rank))
    (fun _ _ _ hlm hmk => by simp at *; omega) (fun _ _ => by simp; omega) languages
  simpa using h

/-- **Sorted languages** without those that repeat the one before are those without repetitions. -/
theorem inOrder_eq_dedup (languages : List Language) :
    inOrder languages = (languages.mergeSort fun l m => l.rank ≤ m.rank).dedup := by
  have : Std.Antisymm fun l m : Language => l.rank ≤ m.rank :=
    ⟨fun _ _ hlm hml => eq_of_rank_eq (Nat.le_antisymm hlm hml)⟩
  rw [inOrder, eraseReps_eq_destutter]
  exact (pairwise_mergeSort languages).destutter_eq_dedup

theorem mem_inOrder {l : Language} {languages : List Language} :
    l ∈ inOrder languages ↔ l ∈ languages := by
  rw [inOrder_eq_dedup, List.mem_dedup, List.mem_mergeSort]

theorem nodup_inOrder (languages : List Language) : (inOrder languages).Nodup := by
  rw [inOrder_eq_dedup]
  exact List.nodup_dedup _

theorem pairwise_inOrder (languages : List Language) :
    (inOrder languages).Pairwise (·.rank < ·.rank) := by
  have hsorted : (inOrder languages).Pairwise (·.rank ≤ ·.rank) := by
    rw [inOrder_eq_dedup]
    exact (pairwise_mergeSort languages).sublist (List.dedup_sublist _)
  exact hsorted.imp₂ (fun _ _ hle hne => Nat.lt_of_le_of_ne hle fun h => hne (eq_of_rank_eq h))
    (nodup_inOrder languages)

/-- **Languages in order** depend only on the set that is given. -/
theorem inOrder_congr {languages others : List Language}
    (h : ∀ l, l ∈ others ↔ l ∈ languages) : inOrder others = inOrder languages := by
  have hperm : (inOrder others).Perm (inOrder languages) := by
    rw [List.perm_ext_iff_of_nodup (nodup_inOrder others) (nodup_inOrder languages)]
    exact fun l => by rw [mem_inOrder, mem_inOrder, h]
  exact hperm.eq_of_pairwise (fun _ _ _ _ hlm hml => absurd (Nat.lt_trans hlm hml) (Nat.lt_irrefl _))
    (pairwise_inOrder others) (pairwise_inOrder languages)

theorem inOrder_ne_nil {languages : List Language} (h : languages ≠ []) : inOrder languages ≠ [] := by
  obtain ⟨l, hl⟩ := List.exists_mem_of_ne_nil languages h
  exact List.ne_nil_of_mem (mem_inOrder.mpr hl)

end Language

/-! ## 3. Plans -/

section Plans

variable (overrides file : Settings)

theorem chosenLanguages_ne_nil : chosenLanguages overrides file ≠ [] := by
  unfold chosenLanguages
  split
  · assumption
  · split
    · assumption
    · exact List.cons_ne_nil _ _

/-- Two lists with the same languages are both given or both not given. -/
theorem eq_nil_iff_of_mem_iff {languages others : List Language}
    (h : ∀ l, l ∈ others ↔ l ∈ languages) : others = [] ↔ languages = [] := by
  simp only [List.eq_nil_iff_forall_not_mem, h]

variable {overrides file}

theorem inOrder_chosenLanguages_congr {given read : List Language}
    (hgiven : ∀ l, l ∈ given ↔ l ∈ overrides.languages) (hread : ∀ l, l ∈ read ↔ l ∈ file.languages) :
    Language.inOrder
        (chosenLanguages { overrides with languages := given } { file with languages := read }) =
      Language.inOrder (chosenLanguages overrides file) := by
  unfold chosenLanguages
  simp only [ne_eq, eq_nil_iff_of_mem_iff hgiven, eq_nil_iff_of_mem_iff hread]
  split
  · exact Language.inOrder_congr hgiven
  · split
    · exact Language.inOrder_congr hread
    · rfl

/-- A plan does not change when languages change places or are repeated, on the command line or in the
settings file. -/
theorem Plan.ofSettings_congr (input : Input) (dryRun : Bool) {given read : List Language}
    (hgiven : ∀ l, l ∈ given ↔ l ∈ overrides.languages) (hread : ∀ l, l ∈ read ↔ l ∈ file.languages) :
    ofSettings input { file with languages := read } { overrides with languages := given } dryRun =
      ofSettings input file overrides dryRun := by
  simp only [ofSettings, inOrder_chosenLanguages_congr hgiven hread]

/-- The settings file is whatever is found, so the whole request is the same. -/
theorem script_generate_congr (input : Input) (config : Option Path) (dryRun : Bool)
    {given : List Language} (hgiven : ∀ l, l ∈ given ↔ l ∈ overrides.languages) :
    (Request.generate input { overrides with languages := given } config dryRun).script =
      (Request.generate input overrides config dryRun).script := by
  have hplans : ∀ found, Plan.ofSettings input found { overrides with languages := given } dryRun =
      Plan.ofSettings input found overrides dryRun :=
    fun found => Plan.ofSettings_congr input dryRun hgiven fun _ => Iff.rfl
  simp only [Request.script, hplans]

end Plans

/-- What a plan takes from the settings of the file and of the command line. -/
structure Plan.Merges (plan : Plan) (file overrides : Settings) : Prop where
  outputDirectory : ByPrecedence overrides.outputDirectory file.outputDirectory
    (some (.ofString "output")) (some plan.outputDirectory)
  package : ByPrecedence overrides.package file.package none plan.package
  onCollision : ByPrecedence overrides.onCollision file.onCollision (some .overwrite)
    (some plan.policy.onCollision)
  onOverflow : ByPrecedence overrides.onOverflow file.onOverflow (some .ignore)
    (some plan.policy.onOverflow)
  languages_ne_nil : plan.languages ≠ []
  languages_increase : plan.languages.Pairwise (·.rank < ·.rank)
  languages_of_overrides : overrides.languages ≠ [] →
    ∀ l, l ∈ plan.languages ↔ l ∈ overrides.languages
  languages_of_file : overrides.languages = [] → file.languages ≠ [] →
    ∀ l, l ∈ plan.languages ↔ l ∈ file.languages
  languages_of_default : overrides.languages = [] → file.languages = [] → plan.languages = [.go]

theorem Plan.merges_ofSettings (input : Input) (file overrides : Settings) (dryRun : Bool) :
    (ofSettings input file overrides dryRun).Merges file overrides where
  outputDirectory := byPrecedence_getD _ _ _
  package := by
    have h := byPrecedence_or overrides.package file.package none
    rwa [Option.or_none] at h
  onCollision := byPrecedence_getD _ _ _
  onOverflow := byPrecedence_getD _ _ _
  languages_ne_nil := Language.inOrder_ne_nil (chosenLanguages_ne_nil overrides file)
  languages_increase := Language.pairwise_inOrder _
  languages_of_overrides h l := by
    rw [ofSettings, Language.mem_inOrder, chosenLanguages, if_pos h]
  languages_of_file h hfile l := by
    rw [ofSettings, Language.mem_inOrder, chosenLanguages, if_neg (not_not.mpr h), if_pos hfile]
  languages_of_default h hfile := by
    rw [ofSettings, chosenLanguages, if_neg (not_not.mpr h), if_neg (not_not.mpr hfile),
      defaultLanguages, Language.inOrder_eq_dedup, List.mergeSort_singleton]
    rfl

/-- **Settings are merged one by one, and languages as a set.** Each setting is that of the command line
if it is given there, else that of the file, else the default, whatever the others are. The languages are
those of the first place that gives any, else Go alone, and they are in order and distinct. So no place of
a language in a list and no repetition of it matters: neither to the plan, nor to anything the program
does from then on. A run reports the languages of the plan once each; and whether it succeeds or not, what
it stores is a beginning of their artifacts, one language after the other. -/
theorem Plan.ofSettings_merges (input : Input) (file overrides : Settings) (dryRun : Bool) :
    let plan := Plan.ofSettings input file overrides dryRun
    plan.Merges file overrides ∧
    (∀ given read : List Language, (∀ l, l ∈ given ↔ l ∈ overrides.languages) →
      (∀ l, l ∈ read ↔ l ∈ file.languages) →
      let other := Plan.ofSettings input { file with languages := read }
        { overrides with languages := given } dryRun
      other = plan ∧ generateAndExit other = generateAndExit plan ∧
        ∀ config, (Request.generate input { overrides with languages := given } config dryRun).script =
          (Request.generate input overrides config dryRun).script) ∧
    ∀ logger clock standard w,
      (∀ report, plan.outcome logger clock standard w = .ok report →
        report.languages.map (·.language) = plan.languages) ∧
      (∀ cause, input.catalog plan.policy w.tree standard = .error cause →
        (generate plan).stored logger clock standard w = []) ∧
      ∀ catalog, input.catalog plan.policy w.tree standard = .ok catalog →
        (generate plan).stored logger clock standard w <+: plan.languages.flatMap fun l =>
          (renderAll catalog l plan.package).map (·.pathBelow plan.outputDirectory) := by
  intro plan
  refine ⟨merges_ofSettings input file overrides dryRun, fun given read hgiven hread => ?_,
    fun logger clock standard w => ⟨fun report h => ?_, fun cause h => ?_, fun catalog h => ?_⟩⟩
  · intro other
    have hother : other = plan := ofSettings_congr input dryRun hgiven hread
    exact ⟨hother, by rw [hother], fun config => script_generate_congr input config dryRun hgiven⟩
  · obtain ⟨catalog, -, rfl⟩ := plan.eq_report_of_outcome logger clock standard w h
    exact (plan.lists_report catalog).languages_eq
  · exact plan.stored_generate_of_error w h
  · exact (plan.stored_isPrefix w h).1

/-- Kotlin is given twice and before Go. -/
example : Language.inOrder [.kotlin, .go, .kotlin] = [.go, .kotlin] := by
  rw [Language.inOrder_eq_dedup]
  cbv

end ErrorCatalog
