import ErrorCatalog.Proofs.Artifact.Shown

/-!
# `ErrorCatalog/Proofs/Catalog/Clipping.lean` — fields that no attribute names

With the overflow policy `ignore` a row may have any number of fields. Here each row is *clipped*: cut
at the width of the header, or filled up to it. Nothing comes of it. The same rows are refused, with
the same errors, because a refusal looks at names and lines only; the same names are in the catalog, in
the same order; and the artifacts are the same, because the values differ only where no artifact looks.

That is a statement about two runs of one loop. It needs no induction of its own, because the loop is
described by its rows already (`Source.catalog_of_rows_cons`): it is enough to say what clipping does to
`firstNamed?`, `lastNamed?`, `namesByFirstUse` and `firstRefusal`. Of clipping these four use that it
changes neither the name nor the line of a row, so the first section is about any such change.
-/

set_option autoImplicit false

namespace ErrorCatalog

/-! ## 1. Rows with the same names and lines -/

section Renaming

variable {f : Row → Row} (hname : ∀ row, (f row).recordName = row.recordName)

include hname

theorem firstNamed?_map (name : RecordName) (rows : List Row) :
    firstNamed? name (rows.map f) = (firstNamed? name rows).map f := by
  simp only [firstNamed?, List.find?_map, Function.comp_def, hname]

theorem lastNamed?_map (name : RecordName) (rows : List Row) :
    lastNamed? name (rows.map f) = (lastNamed? name rows).map f := by
  simp only [lastNamed?, ← List.map_reverse, List.find?_map, Function.comp_def, hname]

theorem namesByFirstUse_map (rows : List Row) :
    namesByFirstUse (rows.map f) = namesByFirstUse rows := by
  simp only [namesByFirstUse, List.map_map, Function.comp_def, hname]

variable (hline : ∀ row, (f row).line = row.line)

include hline

theorem CollisionPolicy.refusal_map (policy : CollisionPolicy) (taken : List Row) (row : Row) :
    policy.refusal (taken.map f) (f row) = policy.refusal taken row := by
  simp only [refusal, hname, hline, firstNamed?_map hname, Option.map_map, Function.comp_def]

/-- Rows that are too wide are not refused, so the width of a row does not matter. -/
theorem BuildPolicy.firstRefusal_map (onCollision : CollisionPolicy) (width : Nat) (rows : List Row) :
    ∀ taken, BuildPolicy.firstRefusal ⟨onCollision, .ignore⟩ width (taken.map f) (rows.map f) =
      BuildPolicy.firstRefusal ⟨onCollision, .ignore⟩ width taken rows := by
  have hwidth : ∀ row, ¬ BuildPolicy.RefusesWidth ⟨onCollision, .ignore⟩ width row := by
    rintro row ⟨h, -⟩
    cases h
  induction rows with
  | nil => intro taken; rfl
  | cons row rows ih =>
    intro taken
    have hrest := ih (taken ++ [row])
    rw [List.map_append, List.map_singleton] at hrest
    rw [List.map_cons, firstRefusal, firstRefusal, hrest, refusal, refusal, if_neg (hwidth _),
      if_neg (hwidth _), onCollision.refusal_map hname hline]

end Renaming

/-! ## 2. Clipped rows -/

/-- A row with its first `width` fields, or filled up to as many. -/
def Row.clipped (width : Nat) (row : Row) : Row :=
  { row with fields := row.fields.take width ++ List.replicate (width - row.fields.length) [] }

theorem Row.getD_clipped {width index : Nat} (h : index < width) (row : Row) :
    (row.clipped width).fields.getD index [] = row.fields.getD index [] := by
  rw [clipped, List.getD_eq_getElem?_getD, List.getD_eq_getElem?_getD]
  by_cases hindex : index < row.fields.length
  · rw [List.getElem?_append_left (by rw [List.length_take]; omega), List.getElem?_take_of_lt h]
  · -- Past the end of the row the text is empty, whether it was filled up or not.
    have hlength : row.fields.length ≤ index := Nat.le_of_not_lt hindex
    rw [List.take_of_length_le (by omega), List.getElem?_append_right hlength,
      List.getElem?_replicate_of_lt (by omega), List.getElem?_eq_none hlength]
    rfl

theorem Row.recordName_clipped {width : Nat} (h : 0 < width) (row : Row) :
    (row.clipped width).recordName = row.recordName := by
  rw [recordName, recordName, getD_clipped h]

theorem Row.cell_values_clipped {width index : Nat} (h : index < width) (row : Row) :
    ((row.clipped width).values width).cell index = (row.values width).cell index := by
  rw [values, values, Values.cell_padded, Values.cell_padded, getD_clipped h]

/-! ## 3. The two catalogs -/

/-- The records of a catalog by the rows it holds. -/
theorem Catalog.Holds.records_eq {attributes : List Text} {rows : List Row} {c : Catalog}
    (h : c.Holds attributes rows) :
    c.records = (namesByFirstUse rows).filterMap fun name =>
      (lastNamed? name rows).map fun row => ⟨name, row.values attributes.length⟩ := by
  simp only [Catalog.records, h.order_eq, h.stored?_eq, Option.map_map, Function.comp_def]

theorem Catalog.Holds.alike_of_clipped {attributes : List Text} (hwidth : 0 < attributes.length)
    {rows : List Row} {c d : Catalog} (hc : c.Holds attributes rows)
    (hd : d.Holds attributes (rows.map (Row.clipped attributes.length))) : d.Alike c where
  attributes_eq := hd.attributes_eq.trans hc.attributes_eq.symm
  names_eq := by
    rw [Catalog.names, Catalog.names, hd.order_eq, hc.order_eq,
      namesByFirstUse_map (Row.recordName_clipped hwidth)]
  records_agree := by
    rw [hd.records_eq, hc.records_eq, namesByFirstUse_map (Row.recordName_clipped hwidth), hd.width_eq]
    refine List.rel_filterMap ?_ (List.forall₂_same.mpr fun name _ => rfl)
    rintro name _ rfl
    dsimp only
    rw [lastNamed?_map (Row.recordName_clipped hwidth)]
    cases lastNamed? name rows with
    | none => exact .none
    | some row => exact .some ⟨rfl, fun index hindex => row.cell_values_clipped hindex⟩

/-- **Additional and missing fields do not show.** If rows may be too wide, then clipping every row to
the width of the header changes nothing that can be seen: it is the same error, or the same names in
the same order and the same artifacts of every language. Artifacts depend on the attributes, on the
names in their order and on the values at the positions of the attributes, whatever the catalogs
are. -/
theorem Source.outcome_of_clipped {source : Source} {header : Row} {data : List Row}
    (hrows : source.rows = header :: data) (hwidth : 1 ≤ header.fields.length)
    (onCollision : CollisionPolicy) :
    (∀ l package,
      (Source.catalog ⟨onCollision, .ignore⟩
          ⟨source.name, header :: data.map (Row.clipped header.fields.length)⟩).map
            (fun d => (d.names, renderAll d l package)) =
        (source.catalog ⟨onCollision, .ignore⟩).map fun c => (c.names, renderAll c l package)) ∧
    ∀ c d : Catalog, c.Alike d → ∀ l package, renderAll c l package = renderAll d l package := by
  refine ⟨fun l package => ?_, fun c d h => h.renderAll_eq⟩
  let clipped : Source := ⟨source.name, header :: data.map (Row.clipped header.fields.length)⟩
  have hsource := source.catalog_of_rows_cons ⟨onCollision, .ignore⟩ hrows
  have hclipped := clipped.catalog_of_rows_cons ⟨onCollision, .ignore⟩ rfl
  have hrefusal := BuildPolicy.firstRefusal_map (Row.recordName_clipped hwidth) (fun _ => rfl)
    onCollision header.fields.length data []
  rw [List.map_nil] at hrefusal
  rw [hrefusal] at hclipped
  cases hfirst : BuildPolicy.firstRefusal ⟨onCollision, .ignore⟩ header.fields.length [] data with
  | some e =>
    rw [hfirst] at hsource hclipped
    rw [hsource, hclipped]
  | none =>
    rw [hfirst] at hsource hclipped
    obtain ⟨c, hc, hholds⟩ := hsource
    obtain ⟨d, hd, hholdsClipped⟩ := hclipped
    have halike := hholds.alike_of_clipped hwidth hholdsClipped
    rw [hc, hd]
    exact congrArg Except.ok (Prod.ext halike.names_eq (halike.renderAll_eq l package))

/-- A row that is too wide and stores under a used name, one without fields, and one that is too
short. -/
theorem Source.outcome_of_clipped_of_uneven_rows :
    ∃ header data, (Source.ofText inlineName
        "code|text\na|1|x\n\uFEFF\nb\nA|2|y|z\n".toList).rows = header :: data ∧
      1 ≤ header.fields.length ∧
      data.map (·.fields.length) = [3, 0, 1, 4] ∧
      (data.map (Row.clipped header.fields.length)).map (·.fields.length) = [2, 2, 2, 2] ∧
      ∀ l package,
        (Source.catalog ⟨.overwrite, .ignore⟩
            ⟨inlineName, header :: data.map (Row.clipped header.fields.length)⟩).map
              (fun d => (d.names, renderAll d l package)) =
          ((Source.ofText inlineName "code|text\na|1|x\n\uFEFF\nb\nA|2|y|z\n".toList).catalog
            ⟨.overwrite, .ignore⟩).map fun c => (c.names, renderAll c l package) := by
  let header : Row := ⟨1, ["code".toList, "text".toList]⟩
  let data : List Row := [⟨2, ["a".toList, "1".toList, "x".toList]⟩, ⟨3, []⟩, ⟨4, ["b".toList]⟩,
    ⟨5, ["A".toList, "2".toList, "y".toList, "z".toList]⟩]
  have hrows : (Source.ofText inlineName
      "code|text\na|1|x\n\uFEFF\nb\nA|2|y|z\n".toList).rows = header :: data := rfl
  have hwidth : 1 ≤ header.fields.length := by decide
  exact ⟨header, data, hrows, hwidth, rfl, rfl, (Source.outcome_of_clipped hrows hwidth .overwrite).1⟩

end ErrorCatalog
