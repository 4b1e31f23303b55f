import ErrorCatalog.Proofs.Artifact.Lossless

/-!
# `ErrorCatalog/Proofs/Artifact/Shown.lean` — what artifacts depend on

The artifacts of a language are made from the attributes, the names in their order, and the values at
the positions of the attributes. Values past the last attribute are kept in a catalog and never looked
at. Two catalogs that differ in nothing else are `Alike`, and what is rendered from them is the same
(`Catalog.Alike.renderAll_eq`).

The constants of one attribute depend on less, on its column alone. Python needs a word more: its
`pass` line asks whether there is a *name*, and a column has only the names that have values. That is
the same thing in a catalog that was made by storing, and no other kind is ever made.
-/

set_option autoImplicit false

namespace ErrorCatalog

/-! ## 1. The constants of one attribute -/

theorem constantsLines_congr {c d : Catalog} {column : Nat} (hempty : c.isEmpty = d.isEmpty)
    (hcolumn : c.column column = d.column column) (name : Text) (l : Language)
    (package : Option Text) :
    constantsLines c column name l package = constantsLines d column name l package := by
  rw [constantsLines, constantsLines, hempty, hcolumn]

/-! ## 2. All artifacts -/

/-- Whether two catalogs have the same attributes, the same names in the same order, and the same
values at the positions of the attributes. -/
structure Catalog.Alike (c d : Catalog) : Prop where
  attributes_eq : c.attributes = d.attributes
  names_eq : c.names = d.names
  records_agree : List.Forall₂ (fun r s => r.name = s.name ∧
    ∀ index < c.width, r.values.cell index = s.values.cell index) c.records d.records

namespace Catalog.Alike

variable {c d : Catalog}

theorem isEmpty_eq (h : c.Alike d) : c.isEmpty = d.isEmpty := congrArg List.isEmpty h.names_eq

theorem shown_eq (h : c.Alike d) : c.shown = d.shown :=
  (Catalog.shown_eq_iff h.attributes_eq).mpr h.records_agree

theorem column_eq (h : c.Alike d) {column : Nat} (hcolumn : column < c.width) :
    c.column column = d.column column := by
  rw [Catalog.column, Catalog.column, ← List.forall₂_eq_eq_eq, List.forall₂_map_left_iff,
    List.forall₂_map_right_iff]
  exact h.records_agree.imp fun r s hrs => Prod.ext hrs.1 (hrs.2 column hcolumn)

theorem renderConstants_eq (h : c.Alike d) {column : Nat} (hcolumn : column < c.width)
    (l : Language) (package : Option Text) :
    renderConstants c column l package = renderConstants d column l package := by
  simp only [renderConstants, h.attributes_eq,
    constantsLines_congr h.isEmpty_eq (h.column_eq hcolumn)]

theorem renderEnumeration_eq (h : c.Alike d) (l : Language) (package : Option Text) :
    renderEnumeration c l package = renderEnumeration d l package := by
  simp only [renderEnumeration, enumerationLines_eq, h.attributes_eq, h.shown_eq]

/-- **What is not shown does not matter.** -/
theorem renderAll_eq (h : c.Alike d) (l : Language) (package : Option Text) :
    renderAll c l package = renderAll d l package := by
  have hwidth : d.width = c.width := by rw [Catalog.width, Catalog.width, h.attributes_eq]
  have hconstants : (List.range c.width).filterMap (fun column => renderConstants c column l package) =
      (List.range c.width).filterMap fun column => renderConstants d column l package :=
    List.filterMap_congr fun column hcolumn =>
      h.renderConstants_eq (List.mem_range.mp hcolumn) l package
  rw [renderAll, renderAll, hwidth, hconstants, h.renderEnumeration_eq]

end Catalog.Alike

end ErrorCatalog
