import ErrorCatalog.Proofs.Catalog.Progress

/-!
# `ErrorCatalog/Proofs/Catalog/Building.lean` — the catalog that comes out

`Progress.lean` describes a catalog by what its containers hold. This file turns the description into
what a reader of the catalog sees: `names`, `get?`, `records` and `column`.

The one thing to show is that the two containers agree, so that `records`, which drops a name that
has no values, drops none (`Catalog.Holds.matched`). The rest is reading off.

Last write wins for the values, first use wins for the place: `Catalog.Shows` has both, `lastNamed?`
in one clause and `namesByFirstUse` in another.
-/

set_option autoImplicit false

namespace ErrorCatalog

/-! ## 1. The order and the map agree -/

namespace Catalog.Holds

variable {attributes : List Text} {taken : List Row} {c : Catalog}

/-- A name of the order is the name of a row, and its values are those of the last such row. -/
theorem exists_last (h : c.Holds attributes taken) {name : RecordName} (hname : name ∈ c.order) :
    ∃ row, lastNamed? name taken = some row ∧
      c.stored? name = some (row.values attributes.length) := by
  rw [h.order_eq, mem_namesByFirstUse] at hname
  obtain ⟨r, hr, hrn⟩ := hname
  cases hl : lastNamed? name taken with
  | none => exact absurd hrn ((lastNamed?_eq_none_iff name taken).mp hl r hr)
  | some row => exact ⟨row, rfl, by rw [h.stored?_eq, hl, Option.map_some]⟩

/-- A name with values is in the order. -/
theorem mem_order_of_stored? (h : c.Holds attributes taken) {name : RecordName} {values : Values}
    (hv : c.stored? name = some values) : name ∈ c.order := by
  rw [h.stored?_eq] at hv
  obtain ⟨row, hrow, -⟩ := Option.map_eq_some_iff.mp hv
  rw [h.order_eq, mem_namesByFirstUse]
  exact ⟨row, List.mem_reverse.mp (List.mem_of_find?_eq_some hrow), by
    simpa using List.find?_some hrow⟩

theorem matched (h : c.Holds attributes taken) : c.Matched := by
  refine fun name => ⟨fun hname => ?_, fun hsome => ?_⟩
  · obtain ⟨row, -, hrow⟩ := h.exists_last hname
    rw [hrow]
    rfl
  · obtain ⟨values, hvalues⟩ := Option.isSome_iff_exists.mp hsome
    exact h.mem_order_of_stored? hvalues

theorem map_name_records (h : c.Holds attributes taken) : c.records.map (·.name) = c.names :=
  h.matched.map_name_records

end Catalog.Holds

theorem Catalog.stored?_of_mem_records {c : Catalog} {r : Record} (hr : r ∈ c.records) :
    r.name ∈ c.order ∧ c.stored? r.name = some r.values := by
  obtain ⟨name, hname, hmap⟩ := List.mem_filterMap.mp hr
  obtain ⟨values, hvalues, rfl⟩ := Option.map_eq_some_iff.mp hmap
  exact ⟨hname, hvalues⟩

/-! ## 2. What a catalog shows of its rows -/

/-- What a catalog shows that was built from a header and the rows after it. -/
structure Catalog.Shows (header : Row) (data : List Row) (c : Catalog) : Prop where
  attributes_eq : c.attributes = header.fields
  /-- The names are those of the rows, each once, in the order of their first use. -/
  names_eq : c.names = namesByFirstUse data
  nodup_names : c.names.Nodup
  /-- The values under a name are the fields of the last row with it, filled up on the right. -/
  get?_of_mem : ∀ name ∈ c.names, ∃ row values, lastNamed? name data = some row ∧
    c.get? name.text = some values ∧
    values.fields = row.fields ++ List.replicate (header.fields.length - row.fields.length) [] ∧
    values.size = max header.fields.length row.fields.length
  get?_of_not_mem : ∀ t, (∀ name ∈ c.names, name.text ≠ t) → c.get? t = none
  /-- The records are those names with those values, none missing, in the same order. -/
  records_eq : c.records.map (·.name) = c.names ∧
    ∀ r ∈ c.records, c.get? r.name.text = some r.values
  /-- A column lists the same names, each with a field of its last row. -/
  column_eq : ∀ j, (c.column j).map (·.1) = c.names ∧
    ∀ p ∈ c.column j, ∃ row, lastNamed? p.1 data = some row ∧ p.2 = row.fields.getD j []

/-- The two views of a catalog agree: what its containers hold is what it shows. -/
theorem Catalog.Holds.shows {header : Row} {data : List Row} {c : Catalog}
    (h : c.Holds header.fields data) : c.Shows header data where
  attributes_eq := h.attributes_eq
  names_eq := h.order_eq
  nodup_names := by
    rw [Catalog.names, h.order_eq]
    exact nodup_eraseDups _
  get?_of_mem name hname := by
    obtain ⟨row, hlast, hstored⟩ := h.exists_last hname
    exact ⟨row, row.values header.fields.length, hlast, by rw [Catalog.get?_text, hstored], rfl,
      Values.size_padded _ _⟩
  get?_of_not_mem t ht := by
    cases hg : c.get? t with
    | none => rfl
    | some values =>
      obtain ⟨name, hname, hstored⟩ := Catalog.exists_stored?_of_get? hg
      exact absurd hname (ht name (h.mem_order_of_stored? hstored))
  records_eq := by
    refine ⟨h.map_name_records, fun r hr => ?_⟩
    rw [Catalog.get?_text, (Catalog.stored?_of_mem_records hr).2]
  column_eq j := by
    refine ⟨?_, fun p hp => ?_⟩
    · rw [← h.map_name_records, Catalog.column, List.map_map]
      rfl
    · obtain ⟨r, hr, rfl⟩ := List.mem_map.mp hp
      obtain ⟨hmem, hvalues⟩ := Catalog.stored?_of_mem_records hr
      obtain ⟨row, hlast, hstored⟩ := h.exists_last hmem
      have hrow : r.values = row.values header.fields.length :=
        Option.some.inj (hvalues.symm.trans hstored)
      exact ⟨row, hlast, by rw [hrow]; exact Values.cell_padded _ _ _⟩

/-- What there is a catalog for has a header, and the catalog holds the rows after it. -/
theorem Source.holds_of_catalog {policy : BuildPolicy} {source : Source} {c : Catalog}
    (h : source.catalog policy = .ok c) :
    ∃ header data, source.rows = header :: data ∧ c.Holds header.fields data := by
  cases hrows : source.rows with
  | nil =>
    rw [Source.catalog_of_rows_nil policy hrows] at h
    cases h
  | cons header data =>
    have hsource := Source.catalog_of_rows_cons policy hrows
    cases hr : policy.firstRefusal header.fields.length [] data with
    | some e =>
      rw [hr] at hsource
      rw [hsource] at h
      cases h
    | none =>
      rw [hr] at hsource
      obtain ⟨c', hc', holds⟩ := hsource
      obtain rfl : c' = c := by rw [hc'] at h; exact Except.ok.inj h
      exact ⟨header, data, rfl, holds⟩

/-- **The catalog of a source.** The first row gives the attributes; the names are those of the other
rows by first use; the values under a name are the fields of the **last** row with it, filled up on
the right; nothing else is in it, and the records and columns list exactly this, in order. -/
theorem Source.shows_of_catalog {policy : BuildPolicy} {source : Source} {c : Catalog}
    (h : source.catalog policy = .ok c) :
    ∃ header data, source.rows = header :: data ∧ c.Shows header data := by
  obtain ⟨header, data, hrows, holds⟩ := source.holds_of_catalog h
  exact ⟨header, data, hrows, holds.shows⟩

/-- A name that is used three times, by rows of three widths. -/
theorem Source.shows_of_catalog_of_reused_name :
    ∃ source c, source = Source.ofText inlineName
        "code|text\nnot found|a\nx\n Not\tFound|b|c\nNOT FOUND\n".toList ∧
      source.catalog {} = .ok c ∧
      ∃ header data, source.rows = header :: data ∧ c.Shows header data := by
  have hok : ∃ c, (Source.ofText inlineName
      "code|text\nnot found|a\nx\n Not\tFound|b|c\nNOT FOUND\n".toList).catalog {} = .ok c := ⟨_, rfl⟩
  obtain ⟨c, hc⟩ := hok
  exact ⟨_, c, rfl, hc, Source.shows_of_catalog hc⟩

end ErrorCatalog
