import ErrorCatalog.Artifact.All
import ErrorCatalog.Catalog.Build
import ErrorCatalog.Proofs.Artifact.Reading
import ErrorCatalog.Proofs.Catalog.Building
import ErrorCatalog.Proofs.Catalog.Name
import ErrorCatalog.Proofs.Source.Lines

/-!
# `ErrorCatalog/Proofs/Artifact/Lossless.lean` — nothing of a record is lost

The two renderings are written independently of each other, and neither knows a `RecordLayout`. Here
each is shown to be laid out by one (`exists_lays_enumeration`, `exists_lays_constants`); that the
records can be read back, and that the two renderings agree on them, then follows from
`RecordLayout.read_of_lays`.

Line by line is the only way to compare, so a rendering is brought into the form of `closedItems`
first. The placeholder needs care: Java writes it among the lines before the records, Python among
those after them.
-/

set_option autoImplicit false

namespace ErrorCatalog

/-! ## 1. Lines as items -/

section Items

variable {α : Type} {front : α → Text} {close : Text}

/-- Lines that nothing separates. -/
theorem separatedLines_nil (line : Instance → Text) (instances : List Instance) :
    separatedLines line [] [] instances = instances.map line := by
  induction instances with
  | nil => rfl
  | cons i rest ih =>
    cases rest with
    | nil => simp [separatedLines]
    | cons j rest => simpa [separatedLines] using ih

theorem ofLines_separatedLines {line : Instance → Text} {ofItem : α → Instance} {items : List α}
    (separator final : Text) (h : ∀ a ∈ items, line (ofItem a) = front a ++ close) :
    Text.ofLines (separatedLines line separator final (items.map ofItem)) =
      EndReader.closedItems front (close ++ separator ++ ['\n']) (close ++ final ++ ['\n']) items := by
  induction items with
  | nil => rfl
  | cons a rest ih =>
    have ha := h a List.mem_cons_self
    have hrest := ih fun b hb => h b (List.mem_cons_of_mem _ hb)
    cases rest with
    | nil => simp [separatedLines, EndReader.closedItems, ha]
    | cons b rest =>
      simp only [List.map_cons, separatedLines, Text.ofLines_cons] at hrest ⊢
      rw [hrest, ha]
      simp [EndReader.closedItems]

end Items

/-! ## 2. Enumerations -/

/-- What an artifact shows of the records: the names, each with its values, in order. -/
def Catalog.shown (c : Catalog) : List Shown :=
  c.records.map fun r => (r.name.text, (List.range c.width).map r.values.cell)

/-- A record as the renderer takes it. -/
def Instance.ofShown (l : Language) (r : Shown) : Instance := ⟨r.1, r.2.map l.literal⟩

theorem Catalog.map_ofRecord (c : Catalog) (l : Language) :
    c.records.map (Instance.ofRecord l c.width) = c.shown.map (Instance.ofShown l) := by
  simp [Catalog.shown, Instance.ofShown, Instance.ofRecord, Function.comp_def]

/-- Labels that are all empty are not seen. -/
theorem labelled_nil {fields literals : List Text} (h : literals.length = fields.length) :
    labelled (fields.map fun _ => []) literals = commaList literals := by
  have hzip : List.zipWith (fun (_ : Text) literal => [] ++ literal) fields literals = literals := by
    induction fields generalizing literals with
    | nil => simpa using h
    | cons field fields ih =>
      obtain ⟨literal, literals, rfl⟩ := List.exists_cons_of_length_eq_add_one h
      simpa using ih (Nat.succ.inj h)
  rw [labelled, List.zipWith_map_left, hzip]

theorem callLine_eq {l : Language} (hl : l ≠ .javascript) {fields : List Text} {r : Shown}
    (h : r.2.length = fields.length) :
    callLine l (instanceMark l) (instanceClose l) (Instance.ofShown l r) =
      (enumerationLayout l fields).front l r ++ instanceClose l := by
  have hlabels : fields.map (instanceLabel l) = fields.map fun _ => [] := by
    cases l <;> first | rfl | exact absurd rfl hl
  have hliterals : (r.2.map l.literal).length = fields.length := by rw [List.length_map, h]
  simp only [callLine, RecordLayout.front, enumerationLayout, Instance.ofShown, hlabels,
    labelled_nil hliterals]

theorem memberLine_eq (fields : List Text) (r : Shown) :
    memberLine fields (Instance.ofShown .javascript r) =
      (enumerationLayout .javascript fields).front .javascript r ++ instanceClose .javascript := by
  unfold memberLine RecordLayout.front labelled enumerationLayout
  dsimp only [Instance.ofShown]
  rw [List.zipWith_map_left]
  rfl

theorem ofLines_instanceLines (l : Language) {fields : List Text} {rs : List Shown}
    (h : ∀ r ∈ rs, r.2.length = fields.length) :
    Text.ofLines (instanceLines l fields (rs.map (Instance.ofShown l))) =
      EndReader.closedItems ((enumerationLayout l fields).front l)
        (enumerationLayout l fields).separator (enumerationLayout l fields).final rs := by
  have hcall : l ≠ .javascript → ∀ r ∈ rs, callLine l (instanceMark l) (instanceClose l)
      (Instance.ofShown l r) = (enumerationLayout l fields).front l r ++ instanceClose l :=
    fun hl r hr => callLine_eq hl (h r hr)
  -- Three of the languages separate no lines.
  have hmap : ∀ line : Instance → Text, (∀ r ∈ rs, line (Instance.ofShown l r) =
      (enumerationLayout l fields).front l r ++ instanceClose l) →
      Text.ofLines ((rs.map (Instance.ofShown l)).map line) =
        EndReader.closedItems ((enumerationLayout l fields).front l)
          (instanceClose l ++ [] ++ ['\n']) (instanceClose l ++ [] ++ ['\n']) rs := by
    intro line hline
    rw [← separatedLines_nil, ofLines_separatedLines [] [] hline]
  cases l with
  | go => exact hmap _ (hcall (by decide))
  | java => exact ofLines_separatedLines [','] [';'] (hcall (by decide))
  | kotlin => exact ofLines_separatedLines [','] [] (hcall (by decide))
  | python => exact hmap _ (hcall (by decide))
  | javascript => exact hmap _ fun r _ => memberLine_eq fields r

/-- Without instances, the placeholder follows the lines that are there in any case. -/
theorem ofLines_enumerationHead (l : Language) (fields : List Text) (noInstances : Bool) :
    Text.ofLines (enumerationHead l fields noInstances) =
      Text.ofLines (enumerationHead l fields false) ++
        if noInstances then (enumerationLayout l fields).placeholder else [] := by
  cases noInstances with
  | false => simp
  | true =>
    cases l with
    | java => simp [enumerationHead, enumerationLayout, Text.ofLines, Language.indent]
    | _ => exact (List.append_nil _).symm

/-- A placeholder that is written only without records may stand on either side of them. -/
theorem RecordLayout.lays_of_marked (y : RecordLayout) (l : Language) {rs : List Shown}
    {marked : Bool} (h : marked = true → rs = []) :
    let records := EndReader.closedItems (y.front l) y.separator y.final rs
    let placeholder := if marked then y.placeholder else []
    y.Lays l rs (placeholder ++ records) ∧ y.Lays l rs (records ++ placeholder) := by
  cases marked with
  | false => exact ⟨.records rs, by simpa using Lays.records rs⟩
  | true =>
    obtain rfl := h rfl
    exact ⟨by simpa [EndReader.closedItems] using Lays.placeholder, Lays.placeholder⟩

/-- The rendering of an enumeration is laid out. -/
theorem exists_lays_enumeration (c : Catalog) (l : Language) (package : Option Text) :
    let fields := c.attributes.map l.fieldName
    ∃ body, (enumerationLayout l fields).Lays l c.shown body ∧
      (renderEnumeration c l package).contents =
        beforeInstances l package fields ++ body ++
          Text.ofLines (enumerationFoot l c.attributes fields) := by
  intro fields
  have hlength : ∀ r ∈ c.shown, r.2.length = fields.length := by
    intro r hr
    obtain ⟨record, -, rfl⟩ := List.mem_map.mp hr
    simp [fields, Catalog.width]
  have hempty : c.records.isEmpty = true → c.shown = [] := by
    intro h
    rw [Catalog.shown, List.isEmpty_iff.mp h, List.map_nil]
  refine ⟨_, ((enumerationLayout l fields).lays_of_marked l hempty).1, ?_⟩
  rw [renderEnumeration, enumerationLines, Catalog.map_ofRecord]
  simp only [Text.ofLines_append, beforeInstances]
  rw [ofLines_enumerationHead, ofLines_instanceLines l hlength]
  simp only [List.append_assoc, fields]

/-! ## 3. Constants -/

/-- What the constants of the attribute at `column` show of the records. -/
def Catalog.shownAt (c : Catalog) (column : Nat) : List Shown :=
  c.records.map fun r => (r.name.text, [r.values.cell column])

theorem constantLine_eq (l : Language) (name value : Text) :
    constantLine l name (l.literal value) =
      (constantsLayout l).front l (name, [value]) ++ constantClose l := by
  cases l <;> simp [constantLine, RecordLayout.front, constantsLayout, constantLead, constantMark,
    constantClose, labelled, commaList]

theorem ofLines_constantLines (c : Catalog) (column : Nat) (l : Language) :
    Text.ofLines ((c.column column).map fun (record, value) =>
        constantLine l record.text (l.literal value)) =
      EndReader.closedItems ((constantsLayout l).front l) (constantsLayout l).separator
        (constantsLayout l).final (c.shownAt column) := by
  let line : Instance → Text := fun i => constantLine l i.name (i.literals.headD [])
  have hlines : ((c.column column).map fun (record, value) =>
      constantLine l record.text (l.literal value)) =
        separatedLines line [] [] ((c.shownAt column).map (Instance.ofShown l)) := by
    rw [separatedLines_nil]
    simp [line, Catalog.column, Catalog.shownAt, Instance.ofShown]
  have hline : ∀ r ∈ c.shownAt column, line (Instance.ofShown l r) =
      (constantsLayout l).front l r ++ constantClose l := by
    intro r hr
    obtain ⟨record, -, rfl⟩ := List.mem_map.mp hr
    exact constantLine_eq l _ _
  rw [hlines, ofLines_separatedLines [] [] hline, List.append_nil]
  rfl

/-- Without constants, the placeholder precedes the lines that are there in any case. -/
theorem ofLines_constantsClosing (l : Language) (noRecords : Bool) :
    Text.ofLines (constantsClosing l noRecords) =
      (if noRecords then (constantsLayout l).placeholder else []) ++
        Text.ofLines (constantsClosing l false) := by
  cases noRecords with
  | false => simp
  | true =>
    cases l with
    | python => simp [constantsClosing, constantsLayout, Text.ofLines, Language.indent]
    | _ => rfl

/-- The rendering of constants is laid out. -/
theorem exists_lays_constants (c : Catalog) (column : Nat) (attr : Text) (l : Language)
    (package : Option Text) :
    ∃ body, (constantsLayout l).Lays l (c.shownAt column) body ∧
      Text.ofLines (constantsLines c column attr.upperCamel l package) =
        beforeConstants l package attr ++ body ++ Text.ofLines (constantsClosing l false) := by
  have hempty : c.isEmpty = true → c.shownAt column = [] := by
    intro h
    rw [Catalog.shownAt, Catalog.records, List.isEmpty_iff.mp h]
    rfl
  refine ⟨_, ((constantsLayout l).lays_of_marked l hempty).2, ?_⟩
  rw [constantsLines]
  simp only [Text.ofLines_append, beforeConstants]
  rw [ofLines_constantLines, ofLines_constantsClosing]
  simp only [List.append_assoc]

/-! ## 4. Reading back -/

theorem Catalog.fits_of_mem_shown {c : Catalog} (l : Language) {r : Shown} (hr : r ∈ c.shown) :
    (enumerationLayout l (c.attributes.map l.fieldName)).Fits r := by
  obtain ⟨record, -, rfl⟩ := List.mem_map.mp hr
  exact ⟨record.name.not_isBlank, by simp [Catalog.width]⟩

theorem readEnumeration_contents (c : Catalog) (l : Language) (package : Option Text) :
    readEnumeration l package c.attributes (renderEnumeration c l package).contents =
      some c.shown := by
  obtain ⟨body, hbody, hcontents⟩ := exists_lays_enumeration c l package
  rw [hcontents]
  exact RecordLayout.read_of_lays l hbody (fun r hr => Catalog.fits_of_mem_shown l hr) _ _

theorem readConstants_constantsLines (c : Catalog) (column : Nat) (attr : Text) (l : Language)
    (package : Option Text) :
    readConstants l package attr (Text.ofLines (constantsLines c column attr.upperCamel l package)) =
      some ((c.column column).map fun p => (p.1.text, p.2)) := by
  obtain ⟨body, hbody, hcontents⟩ := exists_lays_constants c column attr l package
  have hfits : ∀ r ∈ c.shownAt column, (constantsLayout l).Fits r := by
    intro r hr
    obtain ⟨record, -, rfl⟩ := List.mem_map.mp hr
    exact ⟨record.name.not_isBlank, rfl⟩
  rw [readConstants, hcontents, RecordLayout.read_of_lays l hbody hfits]
  simp [Catalog.shownAt, Catalog.column]

/-- The artifacts of a language: the constants of each attribute at its position, and one more. -/
theorem renderAll_eq (c : Catalog) (l : Language) (package : Option Text) :
    (∀ column attr, c.attributes[column]? = some attr →
      (renderAll c l package)[column]? = renderConstants c column l package) ∧
    (renderAll c l package)[c.width]? = some (renderEnumeration c l package) ∧
    (renderAll c l package).length = c.width + 1 := by
  have hall : renderAll c l package = (List.range c.width).map (fun column =>
      (renderConstants c column l package).getD (renderEnumeration c l package)) ++
        [renderEnumeration c l package] := by
    rw [renderAll, List.append_left_inj, List.filterMap_eq_map_iff_forall_eq_some]
    intro column hcolumn
    have hattr := List.getElem?_eq_getElem (List.mem_range.mp hcolumn)
    simp only [renderConstants, hattr, Option.map_some, Option.getD_some]
  refine ⟨fun column attr hattr => ?_, by simp [hall], by simp [hall]⟩
  have hcolumn : column < c.width := (List.getElem?_eq_some_iff.mp hattr).1
  simp [hall, hcolumn, List.getElem?_append_left, renderConstants, hattr]

/-- Only what is shown of the records matters. -/
theorem enumerationLines_eq (c : Catalog) (l : Language) (package : Option Text) :
    enumerationLines c l package =
      let fields := c.attributes.map l.fieldName
      packageLines l package ++ enumerationHead l fields c.shown.isEmpty ++
        instanceLines l fields (c.shown.map (Instance.ofShown l)) ++
        enumerationFoot l c.attributes fields := by
  simp only [enumerationLines, Catalog.map_ofRecord, Catalog.shown, List.isEmpty_map]

/-- Two catalogs show the same exactly if they have the same names in the same order, and the same
values at the positions of the attributes. -/
theorem Catalog.shown_eq_iff {c d : Catalog} (h : c.attributes = d.attributes) :
    c.shown = d.shown ↔ List.Forall₂ (fun r s => r.name = s.name ∧
      ∀ index < c.width, r.values.cell index = s.values.cell index) c.records d.records := by
  have hwidth : d.width = c.width := by rw [Catalog.width, Catalog.width, h]
  rw [Catalog.shown, Catalog.shown, hwidth, ← List.forall₂_eq_eq_eq, List.forall₂_map_left_iff,
    List.forall₂_map_right_iff]
  have hsame : ∀ r s : Record, (r.name.text, (List.range c.width).map r.values.cell) =
      (s.name.text, (List.range c.width).map s.values.cell) ↔
        r.name = s.name ∧ ∀ index < c.width, r.values.cell index = s.values.cell index := by
    intro r s
    rw [Prod.mk.injEq, List.map_inj_left]
    simp only [List.mem_range]
    exact and_congr_left fun _ => ⟨RecordName.ext_text, congrArg _⟩
  simp only [hsame]

/-- What is read from a text gives values that are single lines. -/
theorem Source.unbroken_of_catalog {name text : Text} {policy : BuildPolicy} {c : Catalog}
    (h : (Source.ofText name text).catalog policy = .ok c) :
    ∀ r ∈ c.records, ∀ index, (r.values.cell index).Unbroken := by
  obtain ⟨header, data, hrows, holds⟩ := Source.holds_of_catalog h
  intro r hr index
  obtain ⟨row, hlast, hcell⟩ := (holds.shows.column_eq index).2 (r.name, r.values.cell index)
    (List.mem_map_of_mem hr)
  have hrow : row ∈ (Source.ofText name text).rows := by
    rw [hrows]
    exact List.mem_cons_of_mem _ (List.mem_reverse.mp (List.mem_of_find?_eq_some hlast))
  simp only at hcell
  rw [hcell, List.getD_eq_getElem?_getD]
  cases hfield : row.fields[index]? with
  | none => exact Text.unbroken_nil
  | some field => exact unbroken_of_mem_fields hrow field (List.mem_of_getElem? hfield)

/-- **Nothing that is rendered of a record is lost, and the two renderings agree.** From the text of
an enumeration, knowing the language, the package and the attributes but nothing of the records, the
records are read back: all of them, in order, with their values. Every column of what was read is also
what is read from the constants of its attribute, rendered in the same run. So two catalogs with the
same attributes have one enumeration exactly if they show the same records.

A value may be any text here. Those that are read from a text are single lines, but nothing depends on
it. -/
theorem renderAll_lossless (c : Catalog) (l : Language) (package : Option Text) :
    (∀ name text policy, (Source.ofText name text).catalog policy = .ok c → ∀ r ∈ c.records,
      ∀ index < c.width, '\n' ∉ r.values.cell index ∧ '\r' ∉ r.values.cell index) ∧
    ∃ shown, (renderAll c l package)[c.width]? = some (renderEnumeration c l package) ∧
      readEnumeration l package c.attributes (renderEnumeration c l package).contents = some shown ∧
      shown = c.records.map (fun r => (r.name.text, (List.range c.width).map r.values.cell)) ∧
      (∀ column attr, c.attributes[column]? = some attr →
        ∃ a, (renderAll c l package)[column]? = some a ∧ a.kind = .constants attr column ∧
          readConstants l package attr a.contents =
            some (shown.map fun r => (r.1, r.2.getD column []))) ∧
      ∀ d : Catalog, d.attributes = c.attributes →
        ((renderEnumeration d l package).contents = (renderEnumeration c l package).contents ↔
          List.Forall₂ (fun r s => r.name = s.name ∧
            ∀ index < c.width, r.values.cell index = s.values.cell index) d.records c.records) := by
  obtain ⟨hcolumns, hlast, -⟩ := renderAll_eq c l package
  refine ⟨fun name text policy h r hr index _ => Source.unbroken_of_catalog h r hr index, c.shown,
    hlast, readEnumeration_contents c l package, rfl, fun column attr hattr => ?_, fun d hd => ?_⟩
  · have hcolumn : column < c.width := (List.getElem?_eq_some_iff.mp hattr).1
    refine ⟨_, by rw [hcolumns column attr hattr, renderConstants, hattr, Option.map_some], rfl, ?_⟩
    rw [readConstants_constantsLines, Catalog.column, Catalog.shown]
    simp [hcolumn]
  · -- One text is read as the records of both.
    have hwidth : d.width = c.width := by rw [Catalog.width, Catalog.width, hd]
    rw [← hwidth, ← Catalog.shown_eq_iff hd]
    constructor
    · intro h
      have hread := readEnumeration_contents d l package
      rw [h, hd, readEnumeration_contents] at hread
      exact (Option.some.inj hread).symm
    · intro h
      simp only [renderEnumeration, enumerationLines_eq, h, hd]

/-- A name that looks like values, and values that look like the end of a literal. -/
example :
    let attributes := ["text".toList, "note".toList]
    let name := RecordName.ofLabel "a(\"b\", \"c\"),".toList
    let values : List Text := ["\\\", \"".toList, "\\".toList]
    let c := (Catalog.empty attributes).insert name ⟨values⟩
    readEnumeration .java none attributes (renderEnumeration c .java none).contents =
      some [("A(\"B\",_\"C\"),".toList, values)] := by decide +kernel

end ErrorCatalog
