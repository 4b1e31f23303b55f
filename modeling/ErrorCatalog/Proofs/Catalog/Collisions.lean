import Mathlib.Data.List.Basic
import ErrorCatalog.Proofs.Catalog.Building
import ErrorCatalog.Proofs.Run.Reported
import ErrorCatalog.Proofs.Text.Bytes

/-!
# `ErrorCatalog/Proofs/Catalog/Collisions.lean` — no row disappears without a warning

If a later row may win, a row that comes with a used name replaces values, and the catalog has one record
less than there are rows. This file shows that the log warns of each such row. Given the rows alone,
`collisionsAmong` says what there is to notice, and `warningsAmong` in which words there is to warn of it.
`Source.collisions_of_catalog` says that this is what is noticed while the catalog is built, and that these
are the warnings among the entries that are reported.

From what is noticed to what is logged it is one step, in which the rows have no part: `warns_load` holds
of every source that is read, under every policy.

A collision is told against the **first** row with the name, not against the one whose values are
replaced. That is the line memory's part of `Progress.Follows`: it has the first line of every name, and
keeps it when more rows come with the name.
-/

set_option autoImplicit false

namespace ErrorCatalog

/-! ## 1. Collisions among rows -/

/-- What there is to tell of a row that comes after the rows `taken`: the first of them that has its
name. -/
def Row.collision? (taken : List Row) (row : Row) : Option Notice :=
  (firstNamed? row.recordName taken).map fun first =>
    .collision row.recordName row.line first.line

/-- What there is to tell of rows, each after those before it. -/
def collisionsAmong (rows : List Row) : List Notice :=
  rows.zipIdx.filterMap fun p => p.1.collision? (rows.take p.2)

theorem collisionsAmong_concat (rows : List Row) (row : Row) :
    collisionsAmong (rows ++ [row]) = collisionsAmong rows ++ (row.collision? rows).toList := by
  rw [collisionsAmong, List.zipIdx_append, List.filterMap_append, Nat.zero_add]
  congr 1
  · refine List.filterMap_congr fun p hp => ?_
    rw [List.take_append_of_le_length (Nat.le_of_lt (List.snd_lt_of_mem_zipIdx hp))]
  · rw [List.zipIdx_singleton, List.filterMap_cons, List.take_left]
    cases row.collision? rows <;> rfl

/-- **Rows are records or collisions.** A row brings a new name, or there is something to tell of it. -/
theorem length_eq_names_add_collisions (rows : List Row) :
    rows.length = (namesByFirstUse rows).length + (collisionsAmong rows).length := by
  induction rows using List.reverseRecOn with
  | nil => rfl
  | append_singleton rows row ih =>
    rw [namesByFirstUse_concat, collisionsAmong_concat, Row.collision?]
    cases firstNamed? row.recordName rows with
    | none =>
      simp only [Option.isSome_none, Bool.false_eq_true, if_false, Option.map_none, Option.toList_none,
        List.append_nil, List.length_append, List.length_singleton]
      omega
    | some first =>
      simp only [Option.isSome_some, if_true, Option.map_some, Option.toList_some, List.length_append,
        List.length_singleton]
      omega

/-! ## 2. Collisions among notices -/

def Notice.isCollision : Notice → Bool
  | .collision .. => true
  | _ => false

/-- Only a collision is logged as a warning. -/
theorem Notice.level_event (n : Notice) : decide (n.event.level = .warn) = n.isCollision := by
  cases n <;> rfl

theorem Row.filter_collision? (taken : List Row) (row : Row) :
    (row.collision? taken).toList.filter Notice.isCollision = (row.collision? taken).toList := by
  unfold collision?
  cases firstNamed? row.recordName taken <;> rfl

theorem filter_fst_checkWidth (policy : OverflowPolicy) (width : Nat) (row : Row) :
    (checkWidth policy width row).1.filter Notice.isCollision = [] := by
  unfold checkWidth
  dsimp only
  split
  · cases policy <;> rfl
  · split <;> rfl

section Follows

variable {attributes : List Text} {taken : List Row} {p : Progress}

theorem fst_storeRow (h : p.Follows attributes taken) (row : Row) :
    (storeRow .overwrite p row).1 = (row.collision? taken).toList := by
  have hlookup := h.firstLine_eq row.recordName
  unfold storeRow Row.collision?
  simp only [ofLabel_cell_padded, hlookup]
  cases firstNamed? row.recordName taken <;> rfl

/-- **One row.** If it is taken, it is told of exactly if an earlier row has its name. -/
theorem filter_fst_takeRow (h : p.Follows attributes taken) {onOverflow : OverflowPolicy} {row : Row}
    {next : Progress} (hnext : (takeRow ⟨.overwrite, onOverflow⟩ p row).2 = .ok next) :
    (takeRow ⟨.overwrite, onOverflow⟩ p row).1.filter Notice.isCollision =
      (row.collision? taken).toList := by
  have hwidth := filter_fst_checkWidth onOverflow p.catalog.width row
  unfold takeRow at hnext ⊢
  dsimp only at hnext ⊢
  cases hcheck : checkWidth onOverflow p.catalog.width row with
  | mk notices result =>
    rw [hcheck] at hnext hwidth
    cases result with
    | error e => cases hnext
    | ok u =>
      show (notices ++ (storeRow .overwrite p row).1).filter Notice.isCollision = _
      rw [List.filter_append, hwidth, fst_storeRow h, Row.filter_collision?]
      rfl

end Follows

/-- **Any number of rows**, by induction on the rows that are left. What was told of the rows before is
carried along, so that the statement is about all rows at the end. -/
theorem filter_fst_takeRows {attributes : List Text} {onOverflow : OverflowPolicy} (rows : List Row) :
    ∀ {taken : List Row} {p last : Progress}, p.Follows attributes taken →
      (takeRows ⟨.overwrite, onOverflow⟩ p rows).2 = .ok last →
      collisionsAmong taken ++
          (takeRows ⟨.overwrite, onOverflow⟩ p rows).1.filter Notice.isCollision =
        collisionsAmong (taken ++ rows) := by
  induction rows with
  | nil =>
    intro taken p last _ _
    simp [takeRows]
  | cons row rows ih =>
    intro taken p last h hlast
    cases htake : takeRow ⟨.overwrite, onOverflow⟩ p row with
    | mk notices result =>
      cases result with
      | error e =>
        rw [snd_takeRows_cons, htake] at hlast
        cases hlast
      | ok next =>
        have hsnd : (takeRow ⟨.overwrite, onOverflow⟩ p row).2 = .ok next := by rw [htake]
        have hnotices := filter_fst_takeRow h hsnd
        have hrest := ih (follows_of_takeRow h hsnd) (by rwa [snd_takeRows_cons, hsnd] at hlast)
        rw [collisionsAmong_concat, ← hnotices, htake, List.append_assoc, List.append_assoc,
          List.singleton_append] at hrest
        rw [takeRows, htake]
        show collisionsAmong taken ++
          (notices ++ (takeRows ⟨.overwrite, onOverflow⟩ next rows).1).filter _ = _
        rw [List.filter_append]
        exact hrest

/-! ## 3. Warnings -/

/-- The warning about a row that comes with the name of earlier ones, given the first of them. -/
def Row.warning (row first : Row) : Event where
  target := "errgen_ingest::builder".toList
  level := .warn
  message := "record name collision, later row wins".toList
  fields := [textField "record" row.recordName.text, countField "line" row.line,
    countField "first_line" first.line]

/-- The warnings about rows, each after those before it. -/
def warningsAmong (rows : List Row) : List Event :=
  rows.zipIdx.filterMap fun p => (firstNamed? p.1.recordName (rows.take p.2)).map p.1.warning

theorem map_event_collisionsAmong (rows : List Row) :
    (collisionsAmong rows).map Notice.event = warningsAmong rows := by
  rw [collisionsAmong, warningsAmong, List.map_filterMap]
  refine List.filterMap_congr fun p _ => ?_
  rw [Row.collision?, Option.map_map]
  rfl

theorem filter_isWarning_events (spans : List Span) (notices : List Notice) :
    (notices.map fun n => Entry.happened spans n.event).filter Entry.isWarning =
      ((notices.filter Notice.isCollision).map Notice.event).map (.happened spans) := by
  rw [List.filter_map, List.map_map]
  exact congrArg (List.map _) (List.filter_congr fun n _ => n.level_event)

section Warnings

variable {logger : Script.Logger} {clock : Clock} {input : ByteArray} {w : Script.World}

/-- **The collisions that are noticed are the warnings in the log**, also if the source is not taken. -/
theorem warns_buildAndReport (spans : List Span) (policy : BuildPolicy) (source : Source) :
    (buildAndReport spans policy source).Warns logger clock input w (source.catalog policy)
      ((((buildCatalog policy source).1.filter Notice.isCollision).map Notice.event).map
        (.happened spans)) where
  result_eq := fst_run_buildAndReport logger clock input w spans policy source
  world_eq := leavesLog_buildAndReport spans policy source w
  warnings_eq := by rw [reported_buildAndReport, filter_isWarning_events]

theorem filter_isWarning_loadedEntries (spans : List Span) (result : Except LoadError Catalog) :
    (loadedEntries spans result).filter Entry.isWarning = [] := by
  cases result <;> rfl

/-- **Loading warns of the same**, inside its span, and of nothing else. -/
theorem warns_load {i : Input} {bytes : ByteArray} {source : Source}
    (hcontents : i.contents w.tree input = .ok bytes)
    (hsource : Source.ofBytes? i.displayName bytes = some source) (outer : List Span)
    (policy : BuildPolicy) :
    (load outer i policy).Warns logger clock input w (source.catalog policy)
      ((((buildCatalog policy source).1.filter Notice.isCollision).map Notice.event).map
        (.happened (outer ++ [stage "ingest" [textField "source" i.displayName]]))) where
  result_eq := by
    rw [fst_run_load, Input.catalog, hcontents]
    exact catalogOfBytes_of_source hsource policy
  world_eq := leavesLog_load outer i policy w
  warnings_eq := by
    have hopened : ∀ span, (Entry.opened outer span).isWarning = false := fun _ => rfl
    have hclosed : ∀ span, (Entry.closed outer span).isWarning = false := fun _ => rfl
    have hrows : ∀ spans, (Entry.happened spans (rowsEvent source)).isWarning = false := fun _ => rfl
    rw [reported_load hcontents hsource]
    simp only [List.filter_cons, List.filter_append, List.filter_nil, hopened, hclosed, hrows,
      filter_isWarning_events, filter_isWarning_loadedEntries, Bool.false_eq_true, if_false,
      List.append_nil]

end Warnings

/-! ## 4. A whole source -/

/-- **The collisions noticed** of a source that is taken are those among its rows. -/
theorem Source.filter_fst_buildCatalog {onOverflow : OverflowPolicy} {source : Source} {c : Catalog}
    {header : Row} {data : List Row} (h : source.catalog ⟨.overwrite, onOverflow⟩ = .ok c)
    (hrows : source.rows = header :: data) :
    (buildCatalog ⟨.overwrite, onOverflow⟩ source).1.filter Notice.isCollision =
      collisionsAmong data := by
  rw [Source.catalog, buildCatalog, hrows] at h
  rw [buildCatalog, hrows]
  dsimp only at h ⊢
  cases htake : takeRows ⟨.overwrite, onOverflow⟩ ⟨Catalog.empty header.fields, []⟩ data with
  | mk notices result =>
    rw [htake] at h
    cases result with
    | error e => cases h
    | ok last =>
      have hrun := filter_fst_takeRows data (Progress.follows_nil header.fields) (by rw [htake])
      rw [htake] at hrun
      show (notices ++ [Notice.built _ _]).filter Notice.isCollision = _
      rw [List.filter_append]
      simpa [Notice.isCollision, collisionsAmong] using hrun

/-- **No row disappears without a warning.** Of a source that is taken while later rows may win, exactly
the rows with a used name are told of, in order, each with its name, its line and the line of the first
row with the name. So there are as many rows after the header as there are records and collisions
together. Building the catalog reports a warning of each collision to the log, in this order and with no
other warning among them, whatever the logger is and wherever the log goes; and so does loading the source
from an input. -/
theorem Source.collisions_of_catalog {onOverflow : OverflowPolicy} {source : Source} {c : Catalog}
    (h : source.catalog ⟨.overwrite, onOverflow⟩ = .ok c) :
    ∃ header data, source.rows = header :: data ∧
      (buildCatalog ⟨.overwrite, onOverflow⟩ source).1.filter Notice.isCollision =
        collisionsAmong data ∧
      data.length = c.size + (warningsAmong data).length ∧
      (∀ logger clock input w spans,
        (buildAndReport spans ⟨.overwrite, onOverflow⟩ source).Warns logger clock input w (.ok c)
          ((warningsAmong data).map (.happened spans))) ∧
      (∀ logger clock input w outer i bytes, i.contents w.tree input = .ok bytes →
        Source.ofBytes? i.displayName bytes = some source →
        (load outer i ⟨.overwrite, onOverflow⟩).Warns logger clock input w (.ok c)
          ((warningsAmong data).map
            (.happened (outer ++ [stage "ingest" [textField "source" i.displayName]])))) := by
  obtain ⟨header, data, hrows, holds⟩ := source.holds_of_catalog h
  have hcollisions := Source.filter_fst_buildCatalog h hrows
  refine ⟨header, data, hrows, hcollisions, ?_, ?_, ?_⟩
  · rw [Catalog.size, holds.order_eq, ← map_event_collisionsAmong, List.length_map]
    exact length_eq_names_add_collisions data
  · intro logger clock input w spans
    rw [← map_event_collisionsAmong, ← hcollisions, ← h]
    exact warns_buildAndReport spans _ source
  · intro logger clock input w outer i bytes hcontents hsource
    rw [← map_event_collisionsAmong, ← hcollisions, ← h]
    exact warns_load hcontents hsource outer _

/-- A name that comes three times, once in a row that is too wide. Both warnings are about line 2. -/
theorem Source.collisions_of_catalog_of_reused_name :
    let text : Text := "code|text\nnot found|a\nx\n Not\tFound|b|c\n\nNOT FOUND".toList
    let source : Source := .ofText Input.standardInput.displayName text
    let spans : List Span := [stage "ingest" [textField "source" Input.standardInput.displayName]]
    let warning : Nat → Event := fun line =>
      ⟨"errgen_ingest::builder".toList, .warn, "record name collision, later row wins".toList,
        [textField "record" "NOT_FOUND".toList, countField "line" line, countField "first_line" 2]⟩
    ∃ c, source.catalog ⟨.overwrite, .ignore⟩ = .ok c ∧ c.size = 2 ∧ source.rows.length = 5 ∧
      ∀ logger clock w,
        (load [] .standardInput ⟨.overwrite, .ignore⟩).Warns logger clock (Text.encode text) w (.ok c)
          [.happened spans (warning 4), .happened spans (warning 6)] := by
  intro text source spans warning
  have hsource : Source.ofBytes? Input.standardInput.displayName (Text.encode text) = some source := by
    rw [Source.ofBytes?, Text.decode?_encode]
    rfl
  obtain ⟨c, hc⟩ : ∃ c, source.catalog ⟨.overwrite, .ignore⟩ = .ok c := ⟨_, rfl⟩
  obtain ⟨header, data, hrows, -, hlength, -, hload⟩ := Source.collisions_of_catalog hc
  have hwarnings : warningsAmong source.rows.tail = [warning 4, warning 6] := by decide +kernel
  have hcount : source.rows.length = 5 := by decide +kernel
  rw [hrows, List.tail_cons] at hwarnings
  rw [hrows, List.length_cons] at hcount
  rw [hwarnings] at hlength
  refine ⟨c, hc, ?_, ?_, ?_⟩
  · have htwo : [warning 4, warning 6].length = 2 := rfl
    omega
  · rw [hrows]
    exact hcount
  · intro logger clock w
    have hwarns := hload logger clock (Text.encode text) w [] .standardInput _ rfl hsource
    rw [hwarnings] at hwarns
    exact hwarns

end ErrorCatalog
