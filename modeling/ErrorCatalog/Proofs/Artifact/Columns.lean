import ErrorCatalog.Proofs.Artifact.Shown
import ErrorCatalog.Proofs.Catalog.Storing

/-!
# `ErrorCatalog/Proofs/Artifact/Columns.lean` — the constants of an attribute are its column

The constants of an attribute can be read back without knowing anything of the records
(`readConstants`), so they determine the column. Conversely they are made from the column and from
nothing else of the catalog. Together: two catalogs with one attribute at a position have the same
constants there exactly if they have the same column.

Names may be empty or hold what the artifact writes around them, and values may hold line ends. Neither
matters to a reader that starts at the end.
-/

set_option autoImplicit false

namespace ErrorCatalog

variable {c d : Catalog} {column : Nat} {attr : Text}

theorem exists_renderConstants (hattr : c.attributes[column]? = some attr) (l : Language)
    (package : Option Text) :
    ∃ a, renderConstants c column l package = some a ∧
      a.contents = Text.ofLines (constantsLines c column attr.upperCamel l package) :=
  ⟨_, by rw [renderConstants, hattr, Option.map_some], rfl⟩

/-- A column is what its names and values are as texts. -/
theorem column_eq_of_map_text
    (h : (c.column column).map (fun p => (p.1.text, p.2)) =
      (d.column column).map fun p => (p.1.text, p.2)) : c.column column = d.column column := by
  refine (List.map_injective_iff.mpr fun p q hpq => ?_) h
  obtain ⟨hname, hvalue⟩ := Prod.mk.inj hpq
  exact Prod.ext (RecordName.ext_text hname) hvalue

/-- Constants determine the column, and the column the constants. -/
theorem ofLines_constantsLines_eq_iff (hc : c.Matched) (hd : d.Matched) (l : Language)
    (package : Option Text) :
    Text.ofLines (constantsLines c column attr.upperCamel l package) =
        Text.ofLines (constantsLines d column attr.upperCamel l package) ↔
      c.column column = d.column column := by
  constructor
  · intro h
    have hread := readConstants_constantsLines c column attr l package
    rw [h, readConstants_constantsLines] at hread
    exact column_eq_of_map_text (Option.some.inj hread).symm
  · intro h
    have hempty : c.isEmpty = d.isEmpty := by rw [hc.isEmpty_eq column, hd.isEmpty_eq column, h]
    rw [constantsLines_congr hempty h]

/-- **Nothing of a column is lost in its constants.** From the text of the constants, knowing the
language, the package and the attribute, the names and the values are read back: all of them, in
order, and no others. So two catalogs with this attribute at this position have one text exactly if
they have one column there, also if there is no record. -/
theorem renderConstants_lossless {attributes : List Text} {column : Nat} {attr : Text}
    (hattr : attributes[column]? = some attr) (entries : List (RecordName × Values)) (l : Language)
    (package : Option Text) :
    ∃ a, renderConstants (Catalog.ofEntries attributes entries) column l package = some a ∧
      readConstants l package attr a.contents =
        some (((Catalog.ofEntries attributes entries).column column).map fun p => (p.1.text, p.2)) ∧
      ∀ others otherEntries, others[column]? = some attr →
        ∃ b, renderConstants (Catalog.ofEntries others otherEntries) column l package = some b ∧
          (b.contents = a.contents ↔ (Catalog.ofEntries others otherEntries).column column =
            (Catalog.ofEntries attributes entries).column column) := by
  obtain ⟨a, ha, hcontents⟩ := exists_renderConstants (c := Catalog.ofEntries attributes entries)
    (by rw [Catalog.attributes_ofEntries, hattr]) l package
  refine ⟨a, ha, by rw [hcontents, readConstants_constantsLines], ?_⟩
  intro others otherEntries hother
  obtain ⟨b, hb, hcontentsOther⟩ := exists_renderConstants
    (c := Catalog.ofEntries others otherEntries) (by rw [Catalog.attributes_ofEntries, hother]) l package
  refine ⟨b, hb, ?_⟩
  rw [hcontents, hcontentsOther]
  exact ofLines_constantsLines_eq_iff (Catalog.matched_ofEntries others otherEntries)
    (Catalog.matched_ofEntries attributes entries) l package

/-- An empty name, a name that looks like a constant, and a value with quotation marks, backslashes and
line ends. -/
theorem renderConstants_lossless_of_odd_names :
    ∃ attributes entries a, attributes[1]? = some "text".toList ∧
      renderConstants (Catalog.ofEntries attributes entries) 1 .python none = some a ∧
      readConstants .python none "text".toList a.contents =
        some [([], "\"\n    pass\n\\".toList), ("X_=_\"Y\"".toList, [])] := by
  let attributes : List Text := ["code".toList, "text".toList]
  let entries : List (RecordName × Values) :=
    [(.ofLabel [], ⟨[[], "\"\n    pass\n\\".toList]⟩), (.ofLabel "x = \"y\"".toList, ⟨["x".toList]⟩)]
  have hcolumn : ((Catalog.ofEntries attributes entries).column 1).map (fun p => (p.1.text, p.2)) =
      [([], "\"\n    pass\n\\".toList), ("X_=_\"Y\"".toList, [])] := by decide +kernel
  have hattr : attributes[1]? = some "text".toList := rfl
  obtain ⟨a, ha, hread, -⟩ := renderConstants_lossless hattr entries .python none
  exact ⟨attributes, entries, a, hattr, ha, hread.trans (congrArg some hcolumn)⟩

end ErrorCatalog
