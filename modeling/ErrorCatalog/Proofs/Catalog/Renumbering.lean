import ErrorCatalog.Artifact.All
import ErrorCatalog.Proofs.Catalog.Progress
import ErrorCatalog.Proofs.Source.Spacing

/-!
# `ErrorCatalog/Proofs/Catalog/Renumbering.lean` — numbers of lines are for messages only

Building looks at the fields of rows and never at their numbers. It carries the numbers along, in the
memory of first lines, and gives them out in errors. So building from rows with other numbers is the
same building: the same catalog, or the same error with the other numbers in it.

That is a statement about two runs of one loop. It is proved for one row (`storeRow_renumbered`,
`takeRow_renumbered`), then for any number of rows; what the two runs have in common at every step is
that their memories differ by the numbers alone.

With `Spacing.lean`, which says what terminators and empty lines do to rows, it follows what they do to
catalogs and artifacts: nothing, but for the numbers in an error (`Source.outcome_uniform`).
-/

set_option autoImplicit false

namespace ErrorCatalog

variable (f : Nat → Nat)

/-! ## 1. Other numbers -/

def LoadError.renumbered : LoadError → LoadError
  | .collision name firstLine line => .collision name (f firstLine) (f line)
  | .overflow line expected found => .overflow (f line) expected found
  | .unavailable source cause => .unavailable source cause
  | .empty source => .empty source

def Progress.renumbered (p : Progress) : Progress :=
  { p with firstLines := p.firstLines.map fun q => (q.1, f q.2) }

/-- What became of building, with other numbers. -/
def resultRenumbered : Except LoadError Progress → Except LoadError Progress
  | .ok p => .ok (p.renumbered f)
  | .error e => .error (e.renumbered f)

@[simp] theorem fields_renumbered (row : Row) : (row.renumbered f).fields = row.fields := rfl

@[simp] theorem line_renumbered (row : Row) : (row.renumbered f).line = f row.line := rfl

@[simp] theorem catalog_renumbered (p : Progress) : (p.renumbered f).catalog = p.catalog := rfl

theorem lookup_firstLines_renumbered (p : Progress) (name : RecordName) :
    (p.renumbered f).firstLines.lookup name = (p.firstLines.lookup name).map f := by
  unfold Progress.renumbered
  dsimp only
  induction p.firstLines with
  | nil => rfl
  | cons q rest ih =>
    rw [List.map_cons, List.lookup_cons, List.lookup_cons]
    cases name == q.1 with
    | true => rfl
    | false => exact ih

/-! ## 2. One row -/

theorem checkWidth_renumbered (policy : OverflowPolicy) (width : Nat) (row : Row) :
    (checkWidth policy width (row.renumbered f)).2 =
      (checkWidth policy width row).2.mapError (LoadError.renumbered f) := by
  unfold checkWidth
  rw [fields_renumbered, line_renumbered]
  dsimp only
  split
  · cases policy with
    | ignore => rfl
    | reject => rfl
  · split
    · rfl
    · rfl

theorem storeRow_renumbered (policy : CollisionPolicy) (p : Progress) (row : Row) :
    (storeRow policy (p.renumbered f) (row.renumbered f)).2 =
      resultRenumbered f (storeRow policy p row).2 := by
  unfold storeRow
  simp only [fields_renumbered, line_renumbered, catalog_renumbered, lookup_firstLines_renumbered]
  -- The name is decided by the fields, so both runs find it in their memories or neither does.
  cases p.firstLines.lookup
      (RecordName.ofLabel ((Values.padded row.fields p.catalog.width).cell 0)) with
  | some firstLine =>
    cases policy with
    | overwrite => rfl
    | reject => rfl
  | none =>
    simp [resultRenumbered, Progress.renumbered]

theorem takeRow_renumbered (policy : BuildPolicy) (p : Progress) (row : Row) :
    (takeRow policy (p.renumbered f) (row.renumbered f)).2 =
      resultRenumbered f (takeRow policy p row).2 := by
  rw [snd_takeRow, snd_takeRow, catalog_renumbered, checkWidth_renumbered]
  cases (checkWidth policy.onOverflow p.catalog.width row).2 with
  | error e => rfl
  | ok => exact storeRow_renumbered f policy.onCollision p row

/-! ## 3. Any number of rows -/

theorem takeRows_renumbered (policy : BuildPolicy) (rows : List Row) :
    ∀ p : Progress, (takeRows policy (p.renumbered f) (rows.map (Row.renumbered f))).2 =
      resultRenumbered f (takeRows policy p rows).2 := by
  induction rows with
  | nil => intro p; rfl
  | cons row rows ih =>
    intro p
    rw [List.map_cons, snd_takeRows_cons, snd_takeRows_cons, takeRow_renumbered]
    cases (takeRow policy p row).2 with
    | error e => rfl
    | ok next => exact ih next

/-- **Rows with other numbers** give the same catalog, or the same error with those numbers. -/
theorem Source.catalog_renumbered (policy : BuildPolicy) (name : Text) (rows : List Row) :
    Source.catalog policy ⟨name, rows.map (Row.renumbered f)⟩ =
      (Source.catalog policy ⟨name, rows⟩).mapError (LoadError.renumbered f) := by
  cases rows with
  | nil => rfl
  | cons header data =>
    let start : Progress := ⟨Catalog.empty header.fields, []⟩
    have hrows : Source.catalog policy ⟨name, header :: data⟩ =
        (takeRows policy start data).2.map (·.catalog) := catalog_eq_map policy rfl
    have hrenumbered :
        Source.catalog policy ⟨name, header.renumbered f :: data.map (Row.renumbered f)⟩ =
          (takeRows policy ⟨Catalog.empty (header.renumbered f).fields, []⟩
            (data.map (Row.renumbered f))).2.map (·.catalog) := catalog_eq_map policy rfl
    have hstart : ⟨Catalog.empty (header.renumbered f).fields, []⟩ = start.renumbered f := rfl
    rw [List.map_cons, hrows, hrenumbered, hstart, takeRows_renumbered]
    cases (takeRows policy start data).2 with
    | error e => rfl
    | ok last => rfl

/-! ## 4. Line ends and empty lines -/

/-- What comes of a source: the catalog with the artifacts of a language, or the error. -/
def Source.outcome (policy : BuildPolicy) (l : Language) (package : Option Text) (source : Source) :
    Except LoadError (Catalog × List Artifact) :=
  (source.catalog policy).map fun c => (c, renderAll c l package)

/-- **Line ends do not matter, and empty lines move numbers only.** Lines without line ends in them can
be written with any of the three terminators, with or without one after the last line: what comes of
them is the same. With empty lines put between them in any way, what comes of them is the same but for
the numbers in an error, and each number moves by the number of empty lines in front of its line. -/
theorem Source.outcome_uniform {lines : List Text} (h : ∀ line ∈ lines, '\n' ∉ line ∧ '\r' ∉ line)
    (name : Text) (policy : BuildPolicy) (l : Language) (package : Option Text)
    (ending other : LineEnd) (closed closedOther : Bool) :
    (Source.ofText name (uniform other closedOther lines)).outcome policy l package =
      (Source.ofText name (uniform ending closed lines)).outcome policy l package ∧
    ∀ gaps : Nat → Nat,
      (Source.ofText name (uniform other closedOther (spaced gaps lines))).outcome policy l package =
        ((Source.ofText name (uniform ending closed lines)).outcome policy l package).mapError
          (LoadError.renumbered fun n => n + total gaps (List.range n)) := by
  have hsource : ∀ (e : LineEnd) (c : Bool) {ls : List Text}, (∀ line ∈ ls, line.Unbroken) →
      Source.ofText name (uniform e c ls) = ⟨name, rowsFrom 1 ls⟩ := by
    intro e c ls hls
    rw [← Source.rows_uniform name e c hls]
    rfl
  refine ⟨?_, ?_⟩
  · rw [hsource other closedOther h, hsource ending closed h]
  · intro gaps
    rw [hsource other closedOther (unbroken_of_mem_spaced h gaps), hsource ending closed h,
      rowsFrom_spaced]
    unfold Source.outcome
    rw [Source.catalog_renumbered]
    cases Source.catalog policy ⟨name, rowsFrom 1 lines⟩ with
    | error e => rfl
    | ok c => rfl

/-- A collision whose two lines move by different numbers. -/
theorem Source.outcome_uniform_of_collision :
    ∃ lines gaps, lines = ["a|b".toList, "x|1".toList, "X|2".toList] ∧
      (∀ line ∈ lines, '\n' ∉ line ∧ '\r' ∉ line) ∧
      uniform .carriageReturn false (spaced gaps lines) = "\ra|b\r\rx|1\r\r\r\rX|2\r".toList ∧
      (Source.ofText inlineName (uniform .both true lines)).outcome ⟨.reject, .ignore⟩ .go none =
        .error (.collision (.ofLabel "x".toList) 2 3) ∧
      (Source.ofText inlineName (uniform .carriageReturn false (spaced gaps lines))).outcome
        ⟨.reject, .ignore⟩ .go none = .error (.collision (.ofLabel "x".toList) 4 8) := by
  have hlines : ∀ line ∈ ["a|b".toList, "x|1".toList, "X|2".toList],
      '\n' ∉ line ∧ '\r' ∉ line := by decide
  have hplain : (Source.ofText inlineName
      (uniform .both true ["a|b".toList, "x|1".toList, "X|2".toList])).outcome ⟨.reject, .ignore⟩ .go
        none = .error (.collision (.ofLabel "x".toList) 2 3) := rfl
  have hmoved := (Source.outcome_uniform hlines inlineName ⟨.reject, .ignore⟩ .go none .both
    .carriageReturn true false).2 fun i => if i = 2 then 3 else 1
  rw [hplain] at hmoved
  exact ⟨_, _, rfl, hlines, by decide, hplain, hmoved⟩

end ErrorCatalog
