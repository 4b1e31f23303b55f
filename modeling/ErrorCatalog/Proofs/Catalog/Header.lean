import Mathlib.Data.List.Basic
import ErrorCatalog.Proofs.Catalog.Building
import ErrorCatalog.Proofs.Catalog.Refusal
import ErrorCatalog.Proofs.Source.Lines

/-!
# `ErrorCatalog/Proofs/Catalog/Header.lean` — where the attributes come from

The attributes are the fields of one line, the first that is not empty. A text without such a line is
empty, and that is the only way for a text to be empty.

An empty line and a line without fields are not the same. Whether a line is empty is asked before its
byte order mark is dropped, so a line that is a mark and nothing else is taken for the header, and the
catalog that comes of it has no attributes. That is the one line to do so: `splitFields_eq_nil_iff` has
the two lines without fields, and the empty one is skipped.
-/

set_option autoImplicit false

namespace ErrorCatalog

/-- The line that the attributes come from. -/
def headerLine? (text : Text) : Option Text := (physicalLines text).find? (· ≠ [])

theorem headerLine?_eq_none_iff (text : Text) :
    headerLine? text = none ↔ ∀ ch ∈ text, ch = '\n' ∨ ch = '\r' := by
  have hlines : headerLine? text = none ↔ ∀ line ∈ physicalLines text, line = [] := by
    simp [headerLine?]
  rw [hlines]
  constructor
  · intro h ch hch
    rcases ends_or_exists_mem_physicalLines hch with hends | ⟨line, hline, hmem⟩
    · exact hends
    · rw [h line hline] at hmem
      exact absurd hmem List.not_mem_nil
  · intro h line hline
    refine List.eq_nil_iff_forall_not_mem.mpr fun ch hch => ?_
    obtain ⟨hmem, hends⟩ := mem_of_mem_physicalLines hline hch
    exact hends (h ch hmem)

theorem head?_rowsFrom (lines : List Text) :
    ∀ n, (rowsFrom n lines).head?.map (·.fields) = (lines.find? (· ≠ [])).map splitFields := by
  induction lines with
  | nil => intro n; rfl
  | cons line lines ih =>
    intro n
    cases line with
    | nil => simpa [rowsFrom] using ih (n + 1)
    | cons ch rest => simp [rowsFrom]

namespace Source

theorem fields_head?_rows (name text : Text) :
    (ofText name text).rows.head?.map (·.fields) = (headerLine? text).map splitFields :=
  head?_rowsFrom (physicalLines text) 1

theorem rows_eq_nil_iff (name text : Text) :
    (ofText name text).rows = [] ↔ headerLine? text = none := by
  have h := congrArg Option.isNone (fields_head?_rows name text)
  rw [Option.isNone_map, Option.isNone_map] at h
  rw [← List.head?_eq_none_iff, ← Option.isNone_iff_eq_none, h, Option.isNone_iff_eq_none]

/-- The attributes are the fields of the header line. -/
theorem exists_headerLine {policy : BuildPolicy} {name text : Text} {c : Catalog}
    (h : (ofText name text).catalog policy = .ok c) :
    ∃ line, headerLine? text = some line ∧ line ≠ [] ∧ c.attributes = splitFields line := by
  obtain ⟨header, data, hrows, holds⟩ := holds_of_catalog h
  have hhead := fields_head?_rows name text
  rw [hrows] at hhead
  obtain ⟨line, hline, hfields⟩ := Option.map_eq_some_iff.mp hhead.symm
  refine ⟨line, hline, by simpa using List.find?_some hline, ?_⟩
  rw [holds.attributes_eq]
  exact hfields.symm

/-- **Which texts give a catalog without attributes.** A text is refused as empty exactly if it has
nothing but line ends. Otherwise the attributes are the fields of its first line that is not empty,
and there are none exactly if that line is a byte order mark and nothing else; unless a policy refuses
a row, there is such a catalog. So a text in which no line has a field is refused as empty exactly if
there is no mark in it. -/
theorem attributes_eq_nil_iff (policy : BuildPolicy) (name text : Text) :
    ((∃ n, (ofText name text).catalog policy = .error (.empty n)) ↔
      ∀ ch ∈ text, ch = '\n' ∨ ch = '\r') ∧
    (∀ c, (ofText name text).catalog policy = .ok c →
      ∃ line, headerLine? text = some line ∧ c.attributes = splitFields line ∧
        (c.attributes = [] ↔ line = [byteOrderMark])) ∧
    (∀ line, headerLine? text = some line →
      ∃ c, (ofText name text).catalog ⟨.overwrite, .ignore⟩ = .ok c ∧
        c.attributes = splitFields line) ∧
    ((∀ line ∈ physicalLines text, splitFields line = []) →
      ((∃ n, (ofText name text).catalog policy = .error (.empty n)) ↔ byteOrderMark ∉ text)) := by
  have hempty : (∃ n, (ofText name text).catalog policy = .error (.empty n)) ↔
      ∀ ch ∈ text, ch = '\n' ∨ ch = '\r' := by
    rw [catalog_eq_empty_iff, rows_eq_nil_iff, headerLine?_eq_none_iff]
  refine ⟨hempty, ?_, ?_, ?_⟩
  · intro c hc
    obtain ⟨line, hline, hne, hattributes⟩ := exists_headerLine hc
    refine ⟨line, hline, hattributes, ?_⟩
    rw [hattributes, splitFields_eq_nil_iff]
    exact or_iff_right hne
  · intro line hline
    have hrows : (ofText name text).rows ≠ [] := by
      rw [Ne, rows_eq_nil_iff, hline]
      exact Option.some_ne_none line
    obtain ⟨c, hc⟩ := exists_catalog_default hrows
    obtain ⟨other, hother, -, hattributes⟩ := exists_headerLine hc
    obtain rfl : line = other := Option.some.inj (hline.symm.trans hother)
    exact ⟨c, hc, hattributes⟩
  · intro hnone
    rw [hempty]
    constructor
    · intro h hmark
      exact absurd (h byteOrderMark hmark) (by decide)
    · intro hmark ch hch
      rcases ends_or_exists_mem_physicalLines hch with hends | ⟨line, hline, hmem⟩
      · exact hends
      · rcases (splitFields_eq_nil_iff line).mp (hnone line hline) with rfl | rfl
        · exact absurd hmem List.not_mem_nil
        · obtain rfl := List.mem_singleton.mp hmem
          exact absurd hch hmark

/-- A text that is a byte order mark has no line with a field, and it is not refused as empty. -/
theorem exists_catalog_without_attributes :
    (∀ line ∈ physicalLines [byteOrderMark], splitFields line = []) ∧
    ∃ c, (ofText inlineName [byteOrderMark]).catalog {} = .ok c ∧ c.attributes = [] :=
  ⟨by decide, _, rfl, rfl⟩

end Source

end ErrorCatalog
