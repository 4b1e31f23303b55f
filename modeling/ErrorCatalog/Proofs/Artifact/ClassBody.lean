import ErrorCatalog.Proofs.Artifact.FieldList
import ErrorCatalog.Proofs.Artifact.Height
import ErrorCatalog.Proofs.Catalog.Header

/-!
# `ErrorCatalog/Proofs/Artifact/ClassBody.lean` — classes with something in them

A Python class statement needs a body: the first line after it that is not empty has to be indented. Each
Python artifact has one class. Constants have a body in any case, `pass` if there are no records. An
enumeration has no such line; its body is the instances and the properties, and without records and
attributes there is nothing to write.

That does come about. A text whose only line with something on it is a byte order mark is not refused, and
it has neither attributes nor records (`emptyCatalog_iff`).
-/

set_option autoImplicit false

namespace ErrorCatalog

/-! ## 1. Classes and bodies -/

/-- Whether a line starts a class statement. -/
def Text.OpensClass (line : Text) : Prop := "class ".toList <+: line

instance (line : Text) : Decidable line.OpensClass := inferInstanceAs (Decidable (_ <+: _))

/-- Whether a line is indented and has something on it. -/
def Text.IsIndented (line : Text) : Prop := Language.indent .python <+: line ∧ ∃ c ∈ line, c ≠ ' '

/-- Whether the first line that is not empty is indented. -/
def HasBody (after : List Text) : Prop :=
  ∃ line : Text, after.find? (· ≠ []) = some line ∧ line.IsIndented

theorem not_hasBody_nil : ¬ HasBody [] := by
  rintro ⟨line, hline, -⟩
  cases hline

theorem hasBody_nil_cons {after : List Text} : HasBody ([] :: after) ↔ HasBody after := Iff.rfl

theorem hasBody_indented_cons {rest : Text} {c : Char} (hc : c ∈ rest) (hne : c ≠ ' ')
    (after : List Text) : HasBody ((Language.indent .python ++ rest) :: after) :=
  ⟨_, rfl, List.prefix_append _ _, c, List.mem_append_right _ hc, hne⟩

/-- A line that starts with another character does not start a class. -/
theorem Text.not_opensClass_append {front : Text} {d : Char} (hfront : front.head? = some d)
    (hd : d ≠ 'c') (rest : Text) : ¬ OpensClass (front ++ rest) := by
  rintro ⟨tail, h⟩
  have hclass : ("class ".toList ++ tail).head? = some 'c' := rfl
  rw [h, List.head?_append, hfront, Option.some_or] at hclass
  exact hd (Option.some.inj hclass)

theorem Text.not_opensClass_indented (rest : Text) : ¬ OpensClass (Language.indent .python ++ rest) :=
  not_opensClass_append (by decide : (Language.indent .python).head? = some ' ') (by decide) rest

/-- Whether one of the lines starts a class and no other does, and the class has a body exactly if
`complete` holds. -/
def HasOneClass (lines : List Text) (complete : Prop) : Prop :=
  ∃ before line after, lines = before ++ line :: after ∧ line.OpensClass ∧
    (∀ other ∈ before ++ after, ¬ other.OpensClass) ∧ (HasBody after ↔ complete)

theorem HasOneClass.congr {lines : List Text} {complete other : Prop} (h : HasOneClass lines complete)
    (hiff : complete ↔ other) : HasOneClass lines other := by
  rwa [← propext hiff]

/-! ## 2. Constants -/

section Constants

variable (c : Catalog) (column : Nat) (name : Text) (package : Option Text)

/-- **Constants are a class with a body**: the first constant, or `pass`. -/
theorem hasOneClass_constantsLines (hempty : c.records = [] → c.isEmpty = true) :
    HasOneClass (constantsLines c column name .python package) True := by
  have hlines : constantsLines c column name .python package =
      [] ++ constantsOpening .python name ::
        (((c.column column).map fun p =>
          constantLine .python p.1.text (Language.literal .python p.2)) ++
          constantsClosing .python c.isEmpty) := by
    rw [constantsLines, packageLines_python]
    rfl
  refine ⟨_, _, _, hlines, ⟨name ++ [':'], (List.append_assoc _ _ _).symm⟩, ?_, ?_⟩
  · rw [List.nil_append, List.forall_mem_append, List.forall_mem_map]
    refine ⟨fun p _ => Text.not_opensClass_indented _, ?_⟩
    cases c.isEmpty <;> decide
  · refine iff_true_intro ?_
    cases hrecords : c.records with
    | nil =>
      rw [Catalog.column, hrecords, hempty hrecords]
      exact hasBody_indented_cons (by decide : 'p' ∈ "pass".toList) (by decide) _
    | cons r rest =>
      rw [Catalog.column, hrecords]
      exact hasBody_indented_cons (c := '=') (by simp) (by decide) _

end Constants

/-! ## 3. Enumerations -/

section Enumerations

variable (c : Catalog) (package : Option Text)

theorem enumerationLines_python :
    let fields := c.attributes.map (Language.fieldName .python)
    ∃ list, enumerationLines c .python package =
      ["from collections import namedtuple".toList, "from enum import Enum".toList, [],
        recordTypeName ++ list, [], []] ++ ("class ".toList ++ (enumerationName ++ "(Enum):".toList)) ::
        (instanceLines .python fields (c.records.map (Instance.ofRecord .python c.width)) ++
          pythonProperties fields) := by
  unfold enumerationLines enumerationHead enumerationFoot
  rw [packageLines_python]
  simp only [List.nil_append, List.append_assoc, List.cons_append]
  exact ⟨_, rfl⟩

theorem not_opensClass_of_mem_instanceLines (fields : List Text) (instances : List Instance) :
    ∀ line ∈ instanceLines .python fields instances, ¬ line.OpensClass := by
  unfold instanceLines
  rw [List.forall_mem_map]
  intro i _
  simp only [callLine, List.append_assoc]
  exact Text.not_opensClass_indented _

theorem not_opensClass_of_mem_pythonProperties (fields : List Text) :
    ∀ line ∈ pythonProperties fields, ¬ line.OpensClass := by
  intro line hline
  obtain ⟨field, -, hmem⟩ := List.mem_flatMap.mp hline
  simp only [List.mem_cons, List.not_mem_nil, or_false, List.append_assoc] at hmem
  rcases hmem with rfl | rfl | rfl | rfl
  · decide
  · exact Text.not_opensClass_indented _
  · exact Text.not_opensClass_indented _
  · exact Text.not_opensClass_indented _

/-- **An enumeration is a class with a body** exactly if there is a record or an attribute. -/
theorem hasOneClass_enumerationLines :
    HasOneClass (enumerationLines c .python package) (¬ (c.attributes = [] ∧ c.records = [])) := by
  obtain ⟨list, hlines⟩ := enumerationLines_python c package
  refine ⟨_, _, _, hlines, List.prefix_append _ _, ?_, ?_⟩
  · have hrecordType : ¬ Text.OpensClass (recordTypeName ++ list) :=
      Text.not_opensClass_append (by decide : recordTypeName.head? = some 'E') (by decide) list
    simp only [List.forall_mem_append, List.forall_mem_cons]
    exact ⟨⟨by decide, by decide, by decide, hrecordType, by decide, by decide, by simp⟩,
      not_opensClass_of_mem_instanceLines _ _, not_opensClass_of_mem_pythonProperties _⟩
  · cases hrecords : c.records with
    | cons r rest =>
      refine iff_of_true ?_ (fun h => List.cons_ne_nil _ _ h.2)
      simp only [List.map_cons, instanceLines, callLine, List.append_assoc]
      exact hasBody_indented_cons (c := '=') (by simp) (by decide) _
    | nil =>
      cases hattributes : c.attributes with
      | nil => exact iff_of_false not_hasBody_nil (fun h => h ⟨rfl, rfl⟩)
      | cons attr rest =>
        refine iff_of_true ?_ (fun h => List.cons_ne_nil _ _ h.1)
        exact hasBody_nil_cons.mpr
          (hasBody_indented_cons (by decide : '@' ∈ "@property".toList) (by decide) _)

end Enumerations

/-- A Python artifact has no package line, so the package does not matter. -/
theorem renderAll_python (c : Catalog) (package : Option Text) :
    renderAll c .python package = renderAll c .python none := by
  simp only [renderAll, renderConstants, renderEnumeration, constantsLines, enumerationLines,
    packageLines_python]

/-! ## 4. Texts -/

/-- The fields of the rows are those of the lines that are not empty. -/
theorem map_fields_rowsFrom (lines : List Text) : ∀ n,
    (rowsFrom n lines).map (·.fields) = (lines.filter (· ≠ [])).map splitFields := by
  induction lines with
  | nil => intro n; rfl
  | cons line lines ih =>
    intro n
    cases line with
    | nil => simpa [rowsFrom] using ih (n + 1)
    | cons ch rest => simpa [rowsFrom] using ih (n + 1)

/-- **A catalog has no attributes and no records** exactly if the only line with something on it is a byte
order mark. -/
theorem emptyCatalog_iff {policy : BuildPolicy} {name text : Text} {c : Catalog}
    (hc : (Source.ofText name text).catalog policy = .ok c) :
    (c.attributes = [] ∧ c.records = []) ↔
      (physicalLines text).filter (· ≠ []) = [[byteOrderMark]] := by
  obtain ⟨header, data, hrows, holds⟩ := Source.holds_of_catalog hc
  have hdata : c.records = [] ↔ data = [] := by
    rw [← List.map_eq_nil_iff (f := (·.name)), holds.map_name_records, Catalog.names, holds.order_eq,
      List.eq_nil_iff_forall_not_mem, List.eq_nil_iff_forall_not_mem]
    simp [mem_namesByFirstUse]
  have hfields : header.fields :: data.map (·.fields) =
      ((physicalLines text).filter (· ≠ [])).map splitFields := by
    rw [← map_fields_rowsFrom _ 1, ← List.map_cons, ← hrows]
    rfl
  have hmark : splitFields [byteOrderMark] = [] := rfl
  rw [hdata, holds.attributes_eq]
  constructor
  · rintro ⟨hheader, rfl⟩
    rw [hheader] at hfields
    obtain ⟨line, hline, hempty⟩ := List.map_eq_singleton_iff.mp hfields.symm
    have hmem : line ∈ (physicalLines text).filter (· ≠ []) := by
      rw [hline]
      exact List.mem_singleton_self _
    have hne : line ≠ [] := by simpa using List.of_mem_filter hmem
    rw [hline, ((splitFields_eq_nil_iff line).mp hempty).resolve_left hne]
  · intro hline
    rw [hline, List.map_singleton, hmark] at hfields
    obtain ⟨hheader, hnone⟩ := List.cons.inj hfields
    exact ⟨hheader, List.map_eq_nil_iff.mp hnone⟩

theorem isEmpty_of_records {policy : BuildPolicy} {source : Source} {c : Catalog}
    (hc : source.catalog policy = .ok c) (h : c.records = []) : c.isEmpty = true := by
  obtain ⟨header, data, -, holds⟩ := Source.holds_of_catalog hc
  have hnames := holds.map_name_records
  rw [h] at hnames
  exact List.isEmpty_iff.mpr hnames.symm

/-- **Which Python classes have a body.** In each Python artifact of a text, whatever the package, one line
starts a class and no other does. The class has a body, unless the only line of the text with something on
it is a byte order mark. That is when there are no attributes and no records, so the class is the one with
all attributes. -/
theorem renderAll_python_hasBody_iff {policy : BuildPolicy} {name text : Text} {c : Catalog}
    (hc : (Source.ofText name text).catalog policy = .ok c) (package : Option Text) :
    (∀ a ∈ renderAll c .python package, HasOneClass (physicalLines a.contents)
      ((physicalLines text).filter (· ≠ []) ≠ [[byteOrderMark]])) ∧
    ((physicalLines text).filter (· ≠ []) = [[byteOrderMark]] ↔
      c.attributes = [] ∧ c.records = []) := by
  have hunbroken := Source.catalog_unbroken hc
  have hpackage : ∀ given : Text, none = some given → given.trim.Unbroken := nofun
  have hiff := emptyCatalog_iff hc
  refine ⟨fun a ha => ?_, hiff.symm⟩
  rw [renderAll_python] at ha
  rcases mem_renderAll_iff.mp ha with ⟨column, hcolumn⟩ | rfl
  · obtain ⟨attr, hattr, rfl⟩ := renderConstants_eq_some_iff.mp hcolumn
    have hmem : attr ∈ c.attributes := List.mem_of_getElem? hattr
    have hname : attr.upperCamel.Unbroken :=
      Text.unbroken_camel .upperCamel (hunbroken.attributes attr hmem)
    have hlines : ∀ line ∈ constantsLines c column attr.upperCamel .python none, line.Unbroken :=
      unbroken_of_mem_constantsLines .python hunbroken hpackage column hname
    show HasOneClass (physicalLines (Text.ofLines _)) _
    rw [physicalLines_ofLines hlines]
    refine (hasOneClass_constantsLines c column _ none (isEmpty_of_records hc)).congr ?_
    exact iff_of_true trivial fun h => List.ne_nil_of_mem hmem (hiff.mpr h).1
  · have hlines : ∀ line ∈ enumerationLines c .python none, line.Unbroken :=
      unbroken_of_mem_enumerationLines .python hunbroken hpackage
    show HasOneClass (physicalLines (Text.ofLines _)) _
    rw [physicalLines_ofLines hlines]
    exact (hasOneClass_enumerationLines c none).congr (not_congr hiff)

/-- A header without records, below empty lines. -/
theorem renderAll_python_hasBody_of_header :
    ∃ c, (Source.ofText inlineName "\r\n\nclass |text\n".toList).catalog {} = .ok c ∧
      ((∀ a ∈ renderAll c .python (some "app".toList), HasOneClass (physicalLines a.contents)
        ((physicalLines "\r\n\nclass |text\n".toList).filter (· ≠ []) ≠ [[byteOrderMark]])) ∧
      ((physicalLines "\r\n\nclass |text\n".toList).filter (· ≠ []) = [[byteOrderMark]] ↔
        c.attributes = [] ∧ c.records = [])) := by
  have hok : ∃ c, (Source.ofText inlineName "\r\n\nclass |text\n".toList).catalog {} = .ok c := ⟨_, rfl⟩
  obtain ⟨c, hc⟩ := hok
  exact ⟨c, hc, renderAll_python_hasBody_iff hc _⟩

/-- A text that is a byte order mark has one Python artifact, and the last line of it starts the class. -/
theorem exists_class_without_body :
    ∃ c a before line, (Source.ofText inlineName [byteOrderMark]).catalog {} = .ok c ∧
      renderAll c .python none = [a] ∧ physicalLines a.contents = before ++ [line] ∧
      line.OpensClass := by
  refine ⟨⟨[], [], []⟩, _, ["from collections import namedtuple".toList,
    "from enum import Enum".toList, [], "ErrorRecord = namedtuple(\"ErrorRecord\", [])".toList, [], []], "class ErrorEnum(Enum):".toList,
    rfl, rfl, ?_, ?_⟩
  · decide +kernel
  · decide

end ErrorCatalog
