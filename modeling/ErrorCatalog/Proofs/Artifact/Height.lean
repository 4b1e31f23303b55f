import ErrorCatalog.Artifact.All
import ErrorCatalog.Proofs.Artifact.Lossless
import ErrorCatalog.Proofs.Artifact.Naming
import ErrorCatalog.Proofs.Catalog.Header

/-!
# `ErrorCatalog/Proofs/Artifact/Height.lean` — how many lines an artifact has

A literal keeps the line ends of its value as they are. So whether a record takes one line of an artifact
is not decided by the renderer; it is decided by the input, which is cut at every line end before anything
else happens to it. This file follows that fact from the input to the artifacts: the values and the
attributes of a catalog that was read have no line end in them, nor has any form that the renderer gives
them, and so each line of a rendering is one line of the text (`physicalLines_ofLines`).

What is left is counting lines. `ArtifactKind.height` is the number. It knows the language, whether there
is a package line, and how many attributes and records there are, and nothing that the records hold. The
lines of the records are found among the others by what they show (`Instance.IsIn`).

The texts around the records are opened with `unfold` and a case split on the language, never with their
equations: those compare long literals character by character.
-/

set_option autoImplicit false

namespace ErrorCatalog

/-! ## 1. Lines of a text -/

/-- Lines without a line end in them are the lines of their text. -/
theorem physicalLines_ofLines {lines : List Text} (h : ∀ line ∈ lines, line.Unbroken) :
    physicalLines (Text.ofLines lines) = lines := by
  induction lines with
  | nil => rfl
  | cons line rest ih =>
    have hline : line.Unbroken := h line List.mem_cons_self
    have hrest := ih fun l hl => h l (List.mem_cons_of_mem _ hl)
    have hread : physicalLines (line ++ ('\n' :: Text.ofLines rest)) =
        line :: physicalLines (Text.ofLines rest) :=
      physicalLines_append .lineFeed (by simp) hline
    rw [Text.ofLines_cons, hread, hrest]

theorem count_ofLines {lines : List Text} (h : ∀ line ∈ lines, line.Unbroken) :
    '\r' ∉ Text.ofLines lines ∧ (Text.ofLines lines).count '\n' = lines.length := by
  induction lines with
  | nil => exact ⟨List.not_mem_nil, rfl⟩
  | cons line rest ih =>
    have hline : line.Unbroken := h line List.mem_cons_self
    obtain ⟨hreturn, hcount⟩ := ih fun l hl => h l (List.mem_cons_of_mem _ hl)
    rw [Text.ofLines_cons]
    constructor
    · simp [hline.2, hreturn]
    · rw [List.count_append, List.count_cons_self, List.count_eq_zero.mpr hline.1, hcount,
        List.length_cons, Nat.zero_add]

/-! ## 2. What is written of the input -/

@[simp] theorem Language.unbroken_indent (l : Language) : l.indent.Unbroken := by
  cases l <;> decide

theorem Language.unbroken_literal (l : Language) {value : Text} (h : value.Unbroken) :
    (l.literal value).Unbroken := by
  have hbody : Text.Unbroken (value.flatMap l.escapedChar) := by
    induction value with
    | nil => exact Text.unbroken_nil
    | cons c rest ih =>
      obtain ⟨hc, hrest⟩ := Text.unbroken_cons.mp h
      rw [List.flatMap_cons, Text.unbroken_append]
      refine ⟨?_, ih hrest⟩
      unfold Language.escapedChar
      split
      · simp [hc]
      · simp [hc]
  simp [Language.literal, hbody]

theorem Text.unbroken_camel (style : CaseStyle) {t : Text} (h : t.Unbroken) :
    (camel style t).Unbroken :=
  ⟨mt (mem_camel_iff (by decide) (by decide) style t).mp h.1,
    mt (mem_camel_iff (by decide) (by decide) style t).mp h.2⟩

/-- A record name has no blank, and a line end is one. -/
theorem RecordName.unbroken (name : RecordName) : name.text.Unbroken := by
  constructor
  · intro h
    exact absurd (name.not_isBlank _ h) (by decide)
  · intro h
    exact absurd (name.not_isBlank _ h) (by decide)

theorem unbroken_commaList {texts : List Text} (h : ∀ t ∈ texts, t.Unbroken) :
    (commaList texts).Unbroken :=
  Text.unbroken_joined (by decide) h

/-- A list of forms of the fields has no line end if no form has one. -/
theorem unbroken_commaList_map {fields : List Text} {form : Text → Text}
    (h : ∀ field ∈ fields, (form field).Unbroken) : (commaList (fields.map form)).Unbroken := by
  apply unbroken_commaList
  intro t ht
  obtain ⟨field, hfield, rfl⟩ := List.mem_map.mp ht
  exact h field hfield

/-- Whether nothing that is shown of a catalog has a line end in it. -/
structure Catalog.Unbroken (c : Catalog) : Prop where
  attributes : ∀ attr ∈ c.attributes, attr.Unbroken
  values : ∀ r ∈ c.records, ∀ index, (r.values.cell index).Unbroken

theorem Source.catalog_unbroken {policy : BuildPolicy} {name text : Text} {c : Catalog}
    (h : (ofText name text).catalog policy = .ok c) : c.Unbroken where
  attributes := by
    obtain ⟨header, data, hrows, holds⟩ := holds_of_catalog h
    have hheader : header ∈ (ofText name text).rows := by
      rw [hrows]
      exact List.mem_cons_self
    rw [holds.attributes_eq]
    exact unbroken_of_mem_fields hheader
  values := unbroken_of_catalog h

section Lines

variable (l : Language) (package : Option Text)

theorem unbroken_of_mem_packageLines
    (h : ∀ given, package = some given → given.trim.Unbroken) :
    ∀ line ∈ packageLines l package, line.Unbroken := by
  have hname : ∀ name, effectivePackage package = some name → name.Unbroken := by
    intro name hname
    unfold effectivePackage at hname
    split at hname
    · cases hname
    · rename_i given
      split at hname
      · cases hname
      · rw [← Option.some.inj hname]
        exact h given rfl
  unfold packageLines
  cases heffective : effectivePackage package with
  | none =>
    have hdefault : Text.Unbroken defaultGoPackage := by decide
    cases l <;> simp [hdefault]
  | some name =>
    have hunbroken := hname name heffective
    cases l <;> simp [hunbroken]

/-! ## 3. Records and their lines -/

/-- Whether a line shows an instance: its name and all its literals stand there. -/
def Instance.IsIn (i : Instance) (line : Text) : Prop :=
  i.name <:+: line ∧ ∀ literal ∈ i.literals, literal <:+: line

/-- What an artifact shows of a record. -/
def Artifact.instanceOf (a : Artifact) (width : Nat) (r : Record) : Instance :=
  match a.kind with
  | .constants _ column => ⟨r.name.text, [a.language.literal (r.values.cell column)]⟩
  | .enumeration => Instance.ofRecord a.language width r

theorem infix_commaList {texts : List Text} {t : Text} (h : t ∈ texts) :
    t <:+: commaList texts := by
  induction texts with
  | nil => cases h
  | cons u rest ih =>
    cases rest with
    | nil =>
      obtain rfl := List.mem_singleton.mp h
      exact List.infix_rfl
    | cons v rest =>
      rw [commaList, Text.joined_cons_cons]
      rcases List.mem_cons.mp h with rfl | h
      · rw [List.append_assoc]
        exact (List.prefix_append _ _).isInfix
      · exact (ih h).trans (List.suffix_append _ _).isInfix

theorem Instance.isIn_callLine (before after closing : Text) (i : Instance) :
    i.IsIn (callLine l before after i ++ closing) := by
  have hliterals : commaList i.literals <:+: callLine l before after i ++ closing := by
    rw [callLine, List.append_assoc]
    exact List.infix_append _ _ _
  refine ⟨?_, fun literal hliteral => (infix_commaList hliteral).trans hliterals⟩
  rw [callLine, List.append_assoc, List.append_assoc, List.append_assoc]
  exact List.infix_append _ _ _

theorem Instance.isIn_memberLine {fields : List Text} {i : Instance}
    (h : i.literals.length = fields.length) : i.IsIn (memberLine fields i) := by
  -- There are as many literals as fields, so no literal is left without a member.
  have hmembers : ∀ literal ∈ i.literals, ∃ member ∈ List.zipWith
      (fun field literal => field ++ ": ".toList ++ literal) fields i.literals,
      literal <:+: member := by
    intro literal hliteral
    obtain ⟨index, hindex, rfl⟩ := List.mem_iff_getElem.mp hliteral
    refine ⟨_, List.getElem_mem (by rw [List.length_zipWith]; omega : index < _), ?_⟩
    rw [List.getElem_zipWith]
    exact (List.suffix_append _ _).isInfix
  unfold memberLine
  constructor
  · rw [List.append_assoc, List.append_assoc]
    exact List.infix_append _ _ _
  · intro literal hliteral
    obtain ⟨member, hmember, hpart⟩ := hmembers literal hliteral
    exact (hpart.trans (infix_commaList hmember)).trans (List.infix_append _ _ _)

theorem Instance.isIn_constantLine (name literal : Text) :
    Instance.IsIn ⟨name, [literal]⟩ (constantLine l name literal) := by
  have hline : ∃ before mark after, constantLine l name literal =
      before ++ name ++ mark ++ literal ++ after := by
    unfold constantLine
    cases l with
    | java => exact ⟨Language.indent .java ++ "String ".toList, " = ".toList, [';'], by simp⟩
    | kotlin => exact ⟨Language.indent .kotlin ++ "const val ".toList, " = ".toList, [], by simp⟩
    | javascript => exact ⟨Language.indent .javascript, ": ".toList, [','], by simp⟩
    | go => exact ⟨Language.indent .go, " = ".toList, [], by simp⟩
    | python => exact ⟨Language.indent .python, " = ".toList, [], by simp⟩
  obtain ⟨before, mark, after, hline⟩ := hline
  rw [hline]
  refine ⟨?_, List.forall_mem_singleton.mpr (List.infix_append _ _ _)⟩
  rw [List.append_assoc, List.append_assoc]
  exact List.infix_append _ _ _

theorem forall₂_separatedLines {R : Instance → Text → Prop} {line : Instance → Text}
    {separator final : Text} {instances : List Instance}
    (h : ∀ i ∈ instances, R i (line i ++ separator) ∧ R i (line i ++ final)) :
    List.Forall₂ R instances (separatedLines line separator final instances) := by
  induction instances with
  | nil => exact .nil
  | cons i rest ih =>
    obtain ⟨hseparator, hfinal⟩ := h i List.mem_cons_self
    have hrest := ih fun k hk => h k (List.mem_cons_of_mem _ hk)
    cases rest with
    | nil => exact .cons hfinal .nil
    | cons j rest => exact .cons hseparator hrest

/-- **Lines of instances** are one for each, in order, and of two forms. What is asked of a line is asked
of the forms; nothing in a form but the instance can have a line end in it. -/
theorem forall₂_instanceLines {R : Instance → Text → Prop} {fields : List Text}
    {instances : List Instance}
    (hcall : ∀ before after closing : Text, before.Unbroken → after.Unbroken → closing.Unbroken →
      ∀ i ∈ instances, R i (callLine l before after i ++ closing))
    (hmember : ∀ i ∈ instances, R i (memberLine fields i)) :
    List.Forall₂ R instances (instanceLines l fields instances) := by
  have hlines : ∀ before after separator final : Text, before.Unbroken → after.Unbroken →
      separator.Unbroken → final.Unbroken → List.Forall₂ R instances
        (separatedLines (callLine l before after) separator final instances) :=
    fun before after separator final hbefore hafter hseparator hfinal =>
      forall₂_separatedLines fun i hi => ⟨hcall before after separator hbefore hafter hseparator i hi,
        hcall before after final hbefore hafter hfinal i hi⟩
  cases l with
  | go =>
    rw [instanceLines, ← separatedLines_nil]
    exact hlines (" = ".toList ++ enumerationName ++ ['\x7b']) ['\x7d'] [] [] (by decide)
      (by decide) (by decide) (by decide)
  | java =>
    exact hlines ['('] [')'] [','] [';'] (by decide) (by decide) (by decide) (by decide)
  | kotlin =>
    exact hlines ['('] [')'] [','] [] (by decide) (by decide) (by decide) (by decide)
  | python =>
    rw [instanceLines, ← separatedLines_nil]
    exact hlines (" = ".toList ++ recordTypeName ++ ['(']) [')'] [] [] (by decide)
      (by decide) (by decide) (by decide)
  | javascript =>
    rw [instanceLines, List.forall₂_map_right_iff, List.forall₂_same]
    exact hmember

theorem forall_mem_of_forall₂ {α β : Type} {P : β → Prop} {xs : List α} {ys : List β}
    (h : List.Forall₂ (fun _ y => P y) xs ys) : ∀ y ∈ ys, P y := by
  induction h with
  | nil => exact fun y hy => absurd hy List.not_mem_nil
  | cons hy _ ih => exact List.forall_mem_cons.mpr ⟨hy, ih⟩

theorem unbroken_constantLine {name literal : Text} (hname : name.Unbroken)
    (hliteral : literal.Unbroken) : (constantLine l name literal).Unbroken := by
  unfold constantLine
  rw [Text.unbroken_append]
  refine ⟨l.unbroken_indent, ?_⟩
  cases l <;> simp [hname, hliteral]

theorem unbroken_callLine {before after : Text} (hbefore : before.Unbroken)
    (hafter : after.Unbroken) {i : Instance} (hname : i.name.Unbroken)
    (hliterals : ∀ literal ∈ i.literals, literal.Unbroken) :
    (callLine l before after i).Unbroken := by
  unfold callLine
  simp only [Text.unbroken_append]
  exact ⟨⟨⟨⟨l.unbroken_indent, hname⟩, hbefore⟩, unbroken_commaList hliterals⟩, hafter⟩

variable {fields : List Text} (hfields : ∀ field ∈ fields, field.Unbroken)
include hfields

theorem unbroken_memberLine {i : Instance} (hname : i.name.Unbroken)
    (hliterals : ∀ literal ∈ i.literals, literal.Unbroken) : (memberLine fields i).Unbroken := by
  have hmembers : (commaList (List.zipWith
      (fun field literal => field ++ ": ".toList ++ literal) fields i.literals)).Unbroken := by
    apply unbroken_commaList
    intro t ht
    rw [← List.map_uncurry_zip_eq_zipWith] at ht
    obtain ⟨⟨field, literal⟩, hmem, rfl⟩ := List.mem_map.mp ht
    obtain ⟨hfield, hliteral⟩ := List.of_mem_zip hmem
    simp [hfields field hfield, hliterals literal hliteral]
  unfold memberLine
  simp only [Text.unbroken_append]
  exact ⟨⟨⟨⟨Language.unbroken_indent _, hname⟩, by decide⟩, hmembers⟩, by decide⟩

theorem unbroken_of_mem_instanceLines {instances : List Instance}
    (h : ∀ i ∈ instances, i.name.Unbroken ∧ ∀ literal ∈ i.literals, literal.Unbroken) :
    ∀ line ∈ instanceLines l fields instances, line.Unbroken := by
  refine forall_mem_of_forall₂ (forall₂_instanceLines l ?_ ?_)
  · intro before after closing hbefore hafter hclosing i hi
    exact Text.unbroken_append.mpr
      ⟨unbroken_callLine l hbefore hafter (h i hi).1 (h i hi).2, hclosing⟩
  · intro i hi
    exact unbroken_memberLine hfields (h i hi).1 (h i hi).2

/-! ## 4. The lines around the records -/

omit hfields in
@[simp] theorem unbroken_enumerationName : enumerationName.Unbroken := by decide

omit hfields in
@[simp] theorem unbroken_recordTypeName : recordTypeName.Unbroken := by decide

theorem unbroken_of_mem_enumerationHead (noInstances : Bool) :
    ∀ line ∈ enumerationHead l fields noInstances, line.Unbroken := by
  have hparameters : (commaList (fields.map
      fun field => "val ".toList ++ field ++ ": String".toList)).Unbroken :=
    unbroken_commaList_map fun field hfield => by simp [hfields field hfield]
  have hnames : (commaList (fields.map fun field => '"' :: field ++ ['"'])).Unbroken :=
    unbroken_commaList_map fun field hfield => by simp [hfields field hfield]
  unfold enumerationHead
  cases l with
  | go =>
    have hmembers : ∀ field ∈ fields,
        Text.Unbroken (Language.indent .go ++ field ++ " string".toList) :=
      fun field hfield => by simp [hfields field hfield]
    rw [List.forall_mem_append, List.forall_mem_append, List.forall_mem_map]
    exact ⟨⟨by simp, hmembers⟩, by decide⟩
  | java => cases noInstances <;> simp
  | kotlin => simpa using hparameters
  | python => simpa using hnames
  | javascript => simp

theorem unbroken_of_mem_javaMembers {attributes : List Text}
    (hattributes : ∀ attr ∈ attributes, attr.Unbroken) :
    ∀ line ∈ javaMembers attributes fields, line.Unbroken := by
  have hparameters : (commaList (fields.map fun field => "String ".toList ++ field)).Unbroken :=
    unbroken_commaList_map fun field hfield => by simp [hfields field hfield]
  intro line hline
  simp only [javaMembers, List.mem_append, List.mem_map, List.mem_cons, List.mem_flatMap,
    List.not_mem_nil, or_false] at hline
  -- The fields, the constructor with its assignments, and the accessors.
  rcases hline with ((((rfl | ⟨field, hfield, rfl⟩) | rfl | rfl) | ⟨field, hfield, rfl⟩) | rfl) |
    ⟨⟨attr, field⟩, hp, rfl | rfl | rfl | rfl⟩
  · exact Text.unbroken_nil
  · simp [hfields field hfield]
  · exact Text.unbroken_nil
  · simpa using hparameters
  · simp [hfields field hfield]
  · decide
  · exact Text.unbroken_nil
  · have hname : attr.upperCamel.Unbroken :=
      Text.unbroken_camel .upperCamel (hattributes attr (List.of_mem_zip hp).1)
    simp [hname]
  · simp [hfields field (List.of_mem_zip hp).2]
  · decide

theorem unbroken_of_mem_pythonProperties : ∀ line ∈ pythonProperties fields, line.Unbroken := by
  intro line hline
  simp only [pythonProperties, List.mem_cons, List.mem_flatMap, List.not_mem_nil,
    or_false] at hline
  obtain ⟨field, hfield, rfl | rfl | rfl | rfl⟩ := hline
  · exact Text.unbroken_nil
  · decide
  · simp [hfields field hfield]
  · simp [hfields field hfield]

theorem unbroken_of_mem_enumerationFoot {attributes : List Text}
    (hattributes : ∀ attr ∈ attributes, attr.Unbroken) :
    ∀ line ∈ enumerationFoot l attributes fields, line.Unbroken := by
  unfold enumerationFoot
  cases l with
  | java =>
    rw [List.forall_mem_append]
    exact ⟨unbroken_of_mem_javaMembers hfields hattributes, by simp⟩
  | python => exact unbroken_of_mem_pythonProperties hfields
  | _ => simp

end Lines

/-! ## 5. Heights -/

variable (l : Language) (package : Option Text)

/-- Whether the artifacts have a package line. An empty line follows it. -/
def Language.hasPackageLine : Bool := !(packageLines l package).isEmpty

/-- The number of lines of the constants of an attribute. -/
def constantsHeight (packaged : Bool) (records : Nat) : Nat :=
  let head := (if packaged then 2 else 0) + 1
  match l with
  | .python => head + records + if records = 0 then 1 else 0
  | _ => head + records + 1

/-- The number of lines before the instances, without the package line. -/
def enumerationHeadHeight (width : Nat) : Nat :=
  match l with
  | .go => width + 4
  | .python => 7
  | .java | .kotlin | .javascript => 1

def enumerationFootHeight (width : Nat) : Nat :=
  match l with
  | .java => 6 * width + 5
  | .python => 4 * width
  | .go | .kotlin | .javascript => 1

/-- The number of lines of the artifact with all attributes. -/
def enumerationHeight (packaged : Bool) (width records : Nat) : Nat :=
  (if packaged then 2 else 0) + enumerationHeadHeight l width +
    (if l = .java ∧ records = 0 then 1 else 0) + records + enumerationFootHeight l width

/-- The number of lines of an artifact. Nothing that a record holds is asked for. -/
def ArtifactKind.height (kind : ArtifactKind) (packaged : Bool) (width records : Nat) : Nat :=
  match kind with
  | .constants _ _ => constantsHeight l packaged records
  | .enumeration => enumerationHeight l packaged width records

theorem length_packageLines :
    (packageLines l package).length = if l.hasPackageLine package then 2 else 0 := by
  unfold Language.hasPackageLine packageLines
  cases effectivePackage package with
  | none => cases l <;> rfl
  | some name => cases l <;> rfl

theorem length_constantsClosing (noRecords : Bool) : (constantsClosing l noRecords).length =
    match l with
    | .python => if noRecords then 1 else 0
    | _ => 1 := by
  cases noRecords <;> cases l <;> rfl

theorem length_enumerationHead (fields : List Text) (noInstances : Bool) :
    (enumerationHead l fields noInstances).length =
      enumerationHeadHeight l fields.length + if l = .java ∧ noInstances then 1 else 0 := by
  unfold enumerationHead enumerationHeadHeight
  cases l with
  | java => cases noInstances <;> rfl
  | go => simp
  | _ => rfl

theorem length_instanceLines (fields : List Text) (instances : List Instance) :
    (instanceLines l fields instances).length = instances.length := by
  have hlines : List.Forall₂ (fun _ _ => True) instances (instanceLines l fields instances) :=
    forall₂_instanceLines l (fun _ _ _ _ _ _ _ _ => trivial) fun _ _ => trivial
  exact hlines.length_eq.symm

theorem length_enumerationFoot {attributes fields : List Text}
    (h : attributes.length = fields.length) :
    (enumerationFoot l attributes fields).length = enumerationFootHeight l fields.length := by
  unfold enumerationFoot enumerationFootHeight
  cases l with
  | java =>
    simp [javaMembers, List.length_flatMap, h]
    omega
  | python =>
    simp [pythonProperties, List.length_flatMap]
    omega
  | _ => rfl

/-! ## 6. The artifacts -/

section Artifacts

variable {c : Catalog}

theorem length_constantsLines (hsize : c.records.length = c.size) (column : Nat) (name : Text) :
    (constantsLines c column name l package).length =
      constantsHeight l (l.hasPackageLine package) c.size := by
  have hempty : c.isEmpty = true ↔ c.size = 0 := by
    rw [Catalog.isEmpty, Catalog.size, List.isEmpty_iff, List.length_eq_zero_iff]
  unfold constantsLines constantsHeight
  simp only [List.length_append, List.length_map, List.length_singleton, length_packageLines,
    length_constantsClosing, Catalog.column, hsize, hempty]
  cases l <;> rfl

theorem length_enumerationLines (hsize : c.records.length = c.size) :
    (enumerationLines c l package).length =
      enumerationHeight l (l.hasPackageLine package) c.width c.size := by
  have hempty : c.records.isEmpty = true ↔ c.size = 0 := by
    rw [List.isEmpty_iff, ← List.length_eq_zero_iff, hsize]
  unfold enumerationLines enumerationHeight
  rw [List.length_append, List.length_append, List.length_append, length_packageLines,
    length_enumerationHead, length_instanceLines, length_enumerationFoot l (List.length_map _).symm]
  simp only [List.length_map, hsize, hempty, Catalog.width]
  omega

variable {package} (hc : c.Unbroken)
  (hpackage : ∀ given, package = some given → given.trim.Unbroken)
include hc hpackage

theorem unbroken_of_mem_constantsLines (column : Nat) {name : Text} (hname : name.Unbroken) :
    ∀ line ∈ constantsLines c column name l package, line.Unbroken := by
  have hopening : (constantsOpening l name).Unbroken := by
    unfold constantsOpening
    cases l <;> simp [hname]
  have hclosing : ∀ line ∈ constantsClosing l c.isEmpty, line.Unbroken := by
    cases c.isEmpty <;> cases l <;> decide
  simp only [constantsLines, List.forall_mem_append, List.forall_mem_map, List.forall_mem_singleton]
  refine ⟨⟨⟨unbroken_of_mem_packageLines l package hpackage, hopening⟩, ?_⟩, hclosing⟩
  intro p hp
  obtain ⟨r, hr, rfl⟩ := List.mem_map.mp hp
  exact unbroken_constantLine l r.name.unbroken (l.unbroken_literal (hc.values r hr column))

theorem unbroken_of_mem_enumerationLines :
    ∀ line ∈ enumerationLines c l package, line.Unbroken := by
  have hfields : ∀ field ∈ c.attributes.map l.fieldName, field.Unbroken := by
    rw [List.forall_mem_map]
    exact fun attr hattr => Text.unbroken_camel l.fieldCase (hc.attributes attr hattr)
  have hinstances : ∀ i ∈ c.records.map (Instance.ofRecord l c.width),
      i.name.Unbroken ∧ ∀ literal ∈ i.literals, literal.Unbroken := by
    rw [List.forall_mem_map]
    refine fun r hr => ⟨r.name.unbroken, ?_⟩
    rw [Instance.ofRecord, List.forall_mem_map]
    exact fun index _ => l.unbroken_literal (hc.values r hr index)
  simp only [enumerationLines, List.forall_mem_append]
  exact ⟨⟨⟨unbroken_of_mem_packageLines l package hpackage,
    unbroken_of_mem_enumerationHead l hfields _⟩,
    unbroken_of_mem_instanceLines l hfields hinstances⟩,
    unbroken_of_mem_enumerationFoot l hfields hc.attributes⟩

omit hc hpackage in
theorem forall₂_constantLines (column : Nat) (attr : Text) :
    List.Forall₂
      (fun r line => (Artifact.instanceOf ⟨attr.upperCamel, l, .constants attr column,
        Text.ofLines (constantsLines c column attr.upperCamel l package)⟩ c.width r).IsIn line)
      c.records
      ((c.column column).map fun (record, value) => constantLine l record.text (l.literal value)) := by
  rw [Catalog.column, List.map_map, List.forall₂_map_right_iff, List.forall₂_same]
  exact fun r _ => Instance.isIn_constantLine l r.name.text _

omit hc hpackage in
theorem forall₂_instances :
    List.Forall₂ (fun r line => ((renderEnumeration c l package).instanceOf c.width r).IsIn line)
      c.records (instanceLines l (c.attributes.map l.fieldName)
        (c.records.map (Instance.ofRecord l c.width))) := by
  have hlength : ∀ i ∈ c.records.map (Instance.ofRecord l c.width),
      i.literals.length = (c.attributes.map l.fieldName).length := by
    rw [List.forall_mem_map]
    exact fun r _ => by simp [Instance.ofRecord, Catalog.width]
  have hlines : List.Forall₂ Instance.IsIn (c.records.map (Instance.ofRecord l c.width))
      (instanceLines l (c.attributes.map l.fieldName)
        (c.records.map (Instance.ofRecord l c.width))) := by
    apply forall₂_instanceLines
    · intro before after closing _ _ _ i _
      exact i.isIn_callLine l before after closing
    · intro i hi
      exact Instance.isIn_memberLine (hlength i hi)
  exact List.forall₂_map_left_iff.mp hlines

end Artifacts

/-- **No line comes from what a record holds.** A catalog that was read is rendered without carriage
returns, and with a number of line feeds that its records decide only by how many they are. Each record
has one of the lines to itself, where its name and its values are. -/
theorem renderAll_height {name text : Text} {policy : BuildPolicy} {c : Catalog}
    (hc : (Source.ofText name text).catalog policy = .ok c)
    (hpackage : ∀ given, package = some given → '\n' ∉ given.trim ∧ '\r' ∉ given.trim) :
    ∀ a ∈ renderAll c l package,
      '\r' ∉ a.contents ∧
      a.contents.count '\n' = a.kind.height l (l.hasPackageLine package) c.width c.records.length ∧
      ∃ before body after, physicalLines a.contents = before ++ body ++ after ∧
        List.Forall₂ (fun r line => (a.instanceOf c.width r).IsIn line) c.records body := by
  have hunbroken := Source.catalog_unbroken hc
  obtain ⟨header, data, -, holds⟩ := Source.holds_of_catalog hc
  have hsize : c.records.length = c.size := by
    rw [← List.length_map (f := (·.name)), holds.map_name_records]
    rfl
  rw [hsize]
  intro a ha
  rcases mem_renderAll_iff.mp ha with ⟨column, hcolumn⟩ | rfl
  · obtain ⟨attr, hattr, rfl⟩ := renderConstants_eq_some_iff.mp hcolumn
    have hname : attr.upperCamel.Unbroken :=
      Text.unbroken_camel .upperCamel (hunbroken.attributes attr (List.mem_of_getElem? hattr))
    have hlines := unbroken_of_mem_constantsLines l hunbroken hpackage column hname
    obtain ⟨hreturn, hcount⟩ := count_ofLines hlines
    exact ⟨hreturn, hcount.trans (length_constantsLines l package hsize column _), _, _, _,
      physicalLines_ofLines hlines, forall₂_constantLines l column attr⟩
  · have hlines := unbroken_of_mem_enumerationLines l hunbroken hpackage
    obtain ⟨hreturn, hcount⟩ := count_ofLines hlines
    exact ⟨hreturn, hcount.trans (length_enumerationLines l package hsize), _, _, _,
      physicalLines_ofLines hlines, forall₂_instances l⟩

/-- A text whose lines end in three ways, and a package name with a line end that is trimmed off. -/
theorem renderAll_height_of_trimmed_package :
    ∃ c, (Source.ofText inlineName "text|note\r\nnot found|a\\n\"|b\rx|c\n".toList).catalog {} = .ok c ∧
      (∀ given : Text, some " app\n".toList = some given → '\n' ∉ given.trim ∧ '\r' ∉ given.trim) ∧
      ∀ a ∈ renderAll c .java (some " app\n".toList),
        '\r' ∉ a.contents ∧
        a.contents.count '\n' = a.kind.height .java (Language.hasPackageLine .java
          (some " app\n".toList)) c.width c.records.length ∧
        ∃ before body after, physicalLines a.contents = before ++ body ++ after ∧
          List.Forall₂ (fun r line => (a.instanceOf c.width r).IsIn line) c.records body := by
  have hok : ∃ c, (Source.ofText inlineName
      "text|note\r\nnot found|a\\n\"|b\rx|c\n".toList).catalog {} = .ok c := ⟨_, rfl⟩
  obtain ⟨c, hc⟩ := hok
  have hpackage : ∀ given : Text, some " app\n".toList = some given →
      '\n' ∉ given.trim ∧ '\r' ∉ given.trim := by
    intro given hgiven
    obtain rfl := Option.some.inj hgiven
    decide
  exact ⟨c, hc, hpackage, renderAll_height .java _ hc hpackage⟩

end ErrorCatalog
