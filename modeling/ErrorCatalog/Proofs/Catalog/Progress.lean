import ErrorCatalog.Catalog.Build
import ErrorCatalog.Proofs.Catalog.Storing

/-!
# `ErrorCatalog/Proofs/Catalog/Progress.lean` — what building keeps from row to row

Building a catalog is a loop over rows with three containers: the order, the map and the line
memory. This file says once what the three hold after any number of rows, and everything about a
finished catalog, or about the error there is instead of one, is read off that.

The reference is the list of rows itself. `firstNamed?` and `lastNamed?` look a name up among rows,
`namesByFirstUse` is the list of their names without repetitions, and `BuildPolicy.refusal` says why
a row is refused, given the rows before it. None of the four mentions a catalog.

* `Progress.Follows` is the invariant. The order follows the first use of each name, the map the
  **last** row with a name, the line memory the **first**.
* `takeRow_of_follows` is one row, `takeRows_of_follows` any number of them.

`Follows` speaks of rows that were all taken. What the loop does at a row that is refused needs no
clause: it stops.
-/

set_option autoImplicit false

namespace ErrorCatalog

/-! ## 1. Rows by name -/

def Row.recordName (row : Row) : RecordName := RecordName.ofLabel (row.fields.getD 0 [])

/-- The values of that record in a catalog with `width` attributes. -/
def Row.values (width : Nat) (row : Row) : Values := Values.padded row.fields width

def firstNamed? (name : RecordName) (rows : List Row) : Option Row :=
  rows.find? (·.recordName = name)

def lastNamed? (name : RecordName) (rows : List Row) : Option Row :=
  rows.reverse.find? (·.recordName = name)

/-- The names of rows without repetitions, each at its first use. -/
def namesByFirstUse (rows : List Row) : List RecordName := (rows.map Row.recordName).eraseDups

theorem firstNamed?_concat (name : RecordName) (rows : List Row) (row : Row) :
    firstNamed? name (rows ++ [row]) =
      (firstNamed? name rows).or (if row.recordName = name then some row else none) := by
  by_cases h : row.recordName = name
  · simp [firstNamed?, List.find?_append, h]
  · simp [firstNamed?, List.find?_append, h]

theorem lastNamed?_concat (name : RecordName) (rows : List Row) (row : Row) :
    lastNamed? name (rows ++ [row]) =
      if row.recordName = name then some row else lastNamed? name rows := by
  by_cases h : row.recordName = name
  · simp [lastNamed?, h]
  · simp [lastNamed?, h]

theorem firstNamed?_eq_none_iff (name : RecordName) (rows : List Row) :
    firstNamed? name rows = none ↔ ∀ row ∈ rows, row.recordName ≠ name := by
  simp [firstNamed?]

theorem lastNamed?_eq_none_iff (name : RecordName) (rows : List Row) :
    lastNamed? name rows = none ↔ ∀ row ∈ rows, row.recordName ≠ name := by
  simp [lastNamed?]

theorem isSome_lastNamed? (name : RecordName) (rows : List Row) :
    (lastNamed? name rows).isSome = (firstNamed? name rows).isSome := by
  have h : lastNamed? name rows = none ↔ firstNamed? name rows = none := by
    rw [lastNamed?_eq_none_iff, firstNamed?_eq_none_iff]
  cases hl : lastNamed? name rows <;> cases hf : firstNamed? name rows <;> simp_all

theorem mem_namesByFirstUse (name : RecordName) (rows : List Row) :
    name ∈ namesByFirstUse rows ↔ ∃ row ∈ rows, row.recordName = name := by
  simp [namesByFirstUse]

theorem isSome_firstNamed?_iff (row : Row) (rows : List Row) :
    (firstNamed? row.recordName rows).isSome = true ↔ row.recordName ∈ rows.map Row.recordName := by
  simp [firstNamed?, List.find?_isSome]

/-- A new row adds its name at the end, unless an earlier row has it. -/
theorem namesByFirstUse_concat (rows : List Row) (row : Row) :
    namesByFirstUse (rows ++ [row]) =
      if (firstNamed? row.recordName rows).isSome then namesByFirstUse rows
      else namesByFirstUse rows ++ [row.recordName] := by
  rw [namesByFirstUse, List.map_append, List.map_singleton, eraseDups_concat]
  simp only [isSome_firstNamed?_iff]
  rfl

/-! ## 2. Refused rows -/

/-- Whether a row has more fields than there are attributes and that is refused. -/
def BuildPolicy.RefusesWidth (policy : BuildPolicy) (width : Nat) (row : Row) : Prop :=
  policy.onOverflow = .reject ∧ width < row.fields.length

instance (policy : BuildPolicy) (width : Nat) (row : Row) :
    Decidable (policy.RefusesWidth width row) :=
  inferInstanceAs (Decidable (_ ∧ _))

/-- Why a row is refused for its name that comes after the rows `taken`; `none` if it is not. A
collision is reported against the **first** row with the name. -/
def CollisionPolicy.refusal (policy : CollisionPolicy) (taken : List Row) (row : Row) :
    Option LoadError :=
  if policy = .reject then
    (firstNamed? row.recordName taken).map fun first =>
      .collision row.recordName first.line row.line
  else none

/-- Why a row is refused that comes after the rows `taken`; `none` if it is not. The width is asked
about first. -/
def BuildPolicy.refusal (policy : BuildPolicy) (width : Nat) (taken : List Row) (row : Row) :
    Option LoadError :=
  if policy.RefusesWidth width row then some (.overflow row.line width row.fields.length)
  else policy.onCollision.refusal taken row

/-- Why rows are refused that come after the rows `taken`: the first of them that is. -/
def BuildPolicy.firstRefusal (policy : BuildPolicy) (width : Nat) :
    List Row → List Row → Option LoadError
  | _, [] => none
  | taken, row :: rows =>
    (policy.refusal width taken row).or (policy.firstRefusal width (taken ++ [row]) rows)

/-! ## 3. The invariant -/

/-- What a catalog holds when it was built from the rows `taken`. -/
structure Catalog.Holds (attributes : List Text) (taken : List Row) (c : Catalog) : Prop where
  attributes_eq : c.attributes = attributes
  order_eq : c.order = namesByFirstUse taken
  stored?_eq : ∀ name, c.stored? name = (lastNamed? name taken).map (Row.values attributes.length)

/-- What building holds when it has taken the rows `taken`. -/
structure Progress.Follows (attributes : List Text) (taken : List Row) (p : Progress) : Prop where
  holds : p.catalog.Holds attributes taken
  firstLine_eq : ∀ name, p.firstLines.lookup name = (firstNamed? name taken).map (·.line)

theorem Catalog.Holds.width_eq {attributes : List Text} {taken : List Row} {c : Catalog}
    (h : c.Holds attributes taken) : c.width = attributes.length := by
  rw [Catalog.width, h.attributes_eq]

theorem Progress.follows_nil (attributes : List Text) :
    Progress.Follows attributes [] ⟨Catalog.empty attributes, []⟩ :=
  ⟨⟨rfl, rfl, fun _ => rfl⟩, fun _ => rfl⟩

/-- The catalog after one more row. The name goes to the end of the order exactly if no earlier row
has it, because the map has the names of the earlier rows. -/
theorem Catalog.Holds.insert {attributes : List Text} {taken : List Row} {c : Catalog}
    (h : c.Holds attributes taken) (row : Row) :
    (c.insert row.recordName (row.values attributes.length)).Holds attributes (taken ++ [row]) where
  attributes_eq := h.attributes_eq
  order_eq := by
    rw [Catalog.order_insert, namesByFirstUse_concat, h.stored?_eq, Option.isSome_map,
      isSome_lastNamed?, h.order_eq]
  stored?_eq name := by
    rw [Catalog.stored?_insert, lastNamed?_concat, h.stored?_eq]
    by_cases hn : name = row.recordName
    · simp [hn]
    · simp [hn, Ne.symm hn]

/-- What becomes of building when it has come to the rows `taken`, given why the last of them were
refused: the error, or the invariant. -/
def ResultFollows (attributes : List Text) (taken : List Row) :
    Option LoadError → Except LoadError Progress → Prop
  | some e, result => result = .error e
  | none, result => ∃ p, result = .ok p ∧ p.Follows attributes taken

/-! ## 4. One row -/

theorem snd_checkWidth (policy : BuildPolicy) (width : Nat) (row : Row) :
    (checkWidth policy.onOverflow width row).2 =
      if policy.RefusesWidth width row then
        .error (.overflow row.line width row.fields.length)
      else .ok () := by
  unfold checkWidth BuildPolicy.RefusesWidth
  by_cases hw : width < row.fields.length
  · simp only [hw, if_true, and_true]
    cases policy.onOverflow <;> rfl
  · by_cases hn : row.fields.length < width <;> simp [hw, hn]

/-- The name that `storeRow` works with is that of the row. -/
theorem ofLabel_cell_padded (row : Row) (width : Nat) :
    RecordName.ofLabel ((Values.padded row.fields width).cell 0) = row.recordName := by
  rw [Values.cell_padded]; rfl

theorem storeRow_of_follows {attributes : List Text} {taken : List Row} {p : Progress}
    (h : p.Follows attributes taken) (policy : CollisionPolicy) (row : Row) :
    ResultFollows attributes (taken ++ [row]) (policy.refusal taken row)
      (storeRow policy p row).2 := by
  have hlookup := h.firstLine_eq row.recordName
  unfold storeRow CollisionPolicy.refusal
  simp only [ofLabel_cell_padded, h.holds.width_eq]
  cases hfirst : firstNamed? row.recordName taken with
  | some first =>
    rw [hfirst, Option.map_some] at hlookup
    rw [hlookup]
    cases policy with
    | reject => rfl
    | overwrite =>
      refine ⟨_, rfl, h.holds.insert row, fun name => ?_⟩
      -- The name has its first line already, and keeps it.
      rw [h.firstLine_eq, firstNamed?_concat]
      by_cases hn : row.recordName = name
      · subst hn; simp [hfirst]
      · simp [hn]
  | none =>
    rw [hfirst, Option.map_none] at hlookup
    rw [hlookup, Option.map_none, ite_self]
    refine ⟨_, rfl, h.holds.insert row, fun name => ?_⟩
    -- The name is new, so this row is the first that has it.
    rw [List.lookup_append, h.firstLine_eq, firstNamed?_concat]
    by_cases hn : row.recordName = name
    · subst hn; simp [hfirst]
    · simp [hn, List.lookup_cons, beq_false_of_ne (Ne.symm hn)]

theorem snd_takeRow (policy : BuildPolicy) (p : Progress) (row : Row) :
    (takeRow policy p row).2 =
      (checkWidth policy.onOverflow p.catalog.width row).2.bind fun () =>
        (storeRow policy.onCollision p row).2 := by
  unfold takeRow
  split <;> rename_i hc <;> rw [hc] <;> rfl

/-- **One row.** It is refused exactly for the reason that `refusal` gives, and a row that is not
refused is one more row of the invariant. -/
theorem takeRow_of_follows {attributes : List Text} {taken : List Row} {p : Progress}
    (h : p.Follows attributes taken) (policy : BuildPolicy) (row : Row) :
    ResultFollows attributes (taken ++ [row]) (policy.refusal attributes.length taken row)
      (takeRow policy p row).2 := by
  rw [snd_takeRow, h.holds.width_eq, snd_checkWidth]
  unfold BuildPolicy.refusal
  by_cases hw : policy.RefusesWidth attributes.length row
  · simp only [hw, if_true]
    rfl
  · simp only [hw, if_false]
    exact storeRow_of_follows h policy.onCollision row

theorem follows_of_takeRow {attributes : List Text} {taken : List Row} {p : Progress}
    (h : p.Follows attributes taken) {policy : BuildPolicy} {row : Row} {next : Progress}
    (hnext : (takeRow policy p row).2 = .ok next) :
    next.Follows attributes (taken ++ [row]) := by
  have hrow := takeRow_of_follows h policy row
  cases hr : policy.refusal attributes.length taken row with
  | some e =>
    rw [hr, hnext] at hrow
    cases hrow
  | none =>
    rw [hr, hnext] at hrow
    obtain ⟨p', hp', hfollows⟩ := hrow
    rwa [Except.ok.inj hp']

/-! ## 5. Any number of rows -/

theorem snd_takeRows_cons (policy : BuildPolicy) (p : Progress) (row : Row) (rows : List Row) :
    (takeRows policy p (row :: rows)).2 =
      (takeRow policy p row).2.bind fun next => (takeRows policy next rows).2 := by
  rw [takeRows]
  split <;> rename_i ht <;> rw [ht] <;> rfl

/-- **Any number of rows**, by induction on the rows that are left. What carries it is that `Follows`
speaks of all rows taken so far, so that the rows before the induction hypothesis' ones are there to
be collided with. -/
theorem takeRows_of_follows {attributes : List Text} (policy : BuildPolicy) (rows : List Row) :
    ∀ {taken : List Row} {p : Progress}, p.Follows attributes taken →
      ResultFollows attributes (taken ++ rows)
        (policy.firstRefusal attributes.length taken rows) (takeRows policy p rows).2 := by
  induction rows with
  | nil =>
    intro taken p h
    exact ⟨p, rfl, by rwa [List.append_nil]⟩
  | cons row rows ih =>
    intro taken p h
    have hrow := takeRow_of_follows h policy row
    rw [snd_takeRows_cons, BuildPolicy.firstRefusal]
    cases hr : policy.refusal attributes.length taken row with
    | some e =>
      rw [hr] at hrow
      rw [show (takeRow policy p row).2 = .error e from hrow]
      rfl
    | none =>
      rw [hr] at hrow
      obtain ⟨next, hnext, hfollows⟩ := hrow
      -- The rest starts from the rows taken so far and this one.
      have hrest := ih hfollows
      rw [List.append_assoc] at hrest
      rw [hnext]
      exact hrest

/-! ## 6. A whole source -/

theorem Source.catalog_of_rows_nil (policy : BuildPolicy) {source : Source}
    (h : source.rows = []) : source.catalog policy = .error (.empty source.name) := by
  rw [Source.catalog, buildCatalog, h]

theorem Source.catalog_eq_map (policy : BuildPolicy) {source : Source} {header : Row}
    {data : List Row} (h : source.rows = header :: data) :
    source.catalog policy =
      (takeRows policy ⟨Catalog.empty header.fields, []⟩ data).2.map (·.catalog) := by
  rw [Source.catalog, buildCatalog, h]
  dsimp only
  split <;> rename_i ht <;> rw [ht] <;> rfl

/-- **A source with a header.** There is a catalog exactly if no row is refused, and then it holds
the rows after the header. -/
theorem Source.catalog_of_rows_cons (policy : BuildPolicy) {source : Source} {header : Row}
    {data : List Row} (h : source.rows = header :: data) :
    match policy.firstRefusal header.fields.length [] data with
    | some e => source.catalog policy = .error e
    | none => ∃ c, source.catalog policy = .ok c ∧ c.Holds header.fields data := by
  have hrun := takeRows_of_follows policy data (Progress.follows_nil header.fields)
  rw [Source.catalog_eq_map policy h]
  cases hr : policy.firstRefusal header.fields.length [] data with
  | some e =>
    rw [hr] at hrun
    rw [show (takeRows policy _ data).2 = .error e from hrun]
    rfl
  | none =>
    rw [hr] at hrun
    obtain ⟨p, hp, hfollows⟩ := hrun
    exact ⟨p.catalog, by rw [hp]; rfl, hfollows.holds⟩

end ErrorCatalog
