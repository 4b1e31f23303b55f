import ErrorCatalog.Artifact.Constants
import ErrorCatalog.Artifact.Enumeration
import ErrorCatalog.Proofs.Language.Literal

/-!
# `ErrorCatalog/Proofs/Artifact/Reading.lean` — reading generated code back

The line `NAME("a", "b"),` has no part that is safe to look for. A record name may hold quotation
marks and parentheses, and a value may hold anything, so neither the first `(` nor the first quotation
mark nor the last comma is where one would want it.

Read from the end it is unambiguous, by two facts and no third.

* A literal is found by its quotation marks (`EndReader.run_literal`), because the character in front
  of it is always one that the generator wrote.
* A record name has no blank, and there is always a blank in front of it.

A `RecordLayout` is what a language writes around names and values. `RecordLayout.read` knows a layout
and the lines before and after the records; it does not know the records, nor how many there are.
-/

set_option autoImplicit false

namespace ErrorCatalog

/-! ## 1. The values of one record -/

namespace EndReader

/-- Values with a comma and a space between them, each behind its label. -/
def values : List Text → EndReader (List Text)
  | [] => pure []
  | [label] => do
    let value ← literal
    known label
    pure [value]
  | label :: next :: labels => do
    let others ← values (next :: labels)
    known ", ".toList
    let value ← literal
    known label
    pure (value :: others)

end EndReader

/-- Literals with a comma and a space between them, each behind its label. -/
def labelled (labels literals : List Text) : Text := commaList (List.zipWith (· ++ ·) labels literals)

theorem EndReader.run_values (l : Language) {labels : List Text}
    (hlabels : ∀ label ∈ labels, label.Neutral) : ∀ {given : List Text} {before : Text},
      given.length = labels.length → before.Neutral →
        (values labels).run (before ++ labelled labels (given.map l.literal)) =
          some (given, before) := by
  induction labels with
  | nil =>
    intro given before hlength _
    obtain rfl := List.length_eq_zero_iff.mp hlength
    simp [values, labelled, commaList]
  | cons label labels ih =>
    intro given before hlength hbefore
    obtain ⟨value, given, rfl⟩ := List.exists_cons_of_length_eq_add_one hlength
    have hlabel : (before ++ label).Neutral :=
      .append (fun _ => hbefore) (hlabels label List.mem_cons_self)
    cases labels with
    | nil =>
      obtain rfl := List.length_eq_zero_iff.mp (Nat.succ.inj hlength)
      simp [values, labelled, commaList, ← List.append_assoc, run_literal l value hlabel]
    | cons next labels =>
      obtain ⟨second, given, rfl⟩ := List.exists_cons_of_length_eq_add_one (Nat.succ.inj hlength)
      have hrest : (before ++ label ++ l.literal value ++ ", ".toList).Neutral := by
        simp [Text.Neutral]
      -- The values after the first are read before it, and what is then left ends in a space.
      have htext : before ++ labelled (label :: next :: labels)
          ((value :: second :: given).map l.literal) =
            before ++ label ++ l.literal value ++ ", ".toList ++
              labelled (next :: labels) ((second :: given).map l.literal) := by
        simp [labelled, commaList, Text.joined_cons_cons]
      rw [htext, values, StateT.run_bind, ih (fun t ht => hlabels t (List.mem_cons_of_mem _ ht))
        (Nat.succ.inj hlength) hrest]
      simp only [Option.bind_eq_bind, Option.bind_some, StateT.run_bind, run_known,
        run_literal l value hlabel, StateT.run_pure, Option.pure_def]

/-! ## 2. Layouts -/

/-- What an artifact has around the names and values of its records. -/
structure RecordLayout where
  /-- What stands before a name. -/
  lead : Text
  /-- What stands between a name and the values. -/
  mark : Text
  /-- What stands before each value; there are as many values. -/
  labels : List Text
  /-- What follows the values, if another record follows. -/
  separator : Text
  /-- What follows the values of the last record. -/
  final : Text
  /-- What takes the place of the records if there is none. -/
  placeholder : Text
  lead_blank : ∃ c ∈ lead.getLast?, isBlank c = true
  mark_neutral : mark.Neutral
  labels_neutral : ∀ label ∈ labels, label.Neutral
  /-- No record can be taken for the placeholder. -/
  mark_not_placeholder : mark.any (· ∉ placeholder) = true

/-- The name and the values of one record. -/
abbrev Shown := Text × List Text

namespace RecordLayout

variable (y : RecordLayout) (l : Language)

/-- A record up to its last value. -/
def front (r : Shown) : Text := y.lead ++ r.1 ++ y.mark ++ labelled y.labels (r.2.map l.literal)

/-- One record, closed by `closing`. -/
def record (closing : Text) : EndReader Shown := do
  EndReader.known closing
  let values ← EndReader.values y.labels
  EndReader.known y.mark
  let name ← EndReader.word
  EndReader.known y.lead
  pure (name, values)

/-- Whether a record can be laid out: its name has no blank, and it has a value for each label. -/
def Fits (r : Shown) : Prop := (∀ c ∈ r.1, isBlank c = false) ∧ r.2.length = y.labels.length

variable {y}

theorem mark_ne_nil : y.mark ≠ [] := by
  obtain ⟨c, hc, -⟩ := List.any_eq_true.mp y.mark_not_placeholder
  exact List.ne_nil_of_mem hc

theorem mark_subset_front (r : Shown) : y.mark ⊆ y.front l r := by
  intro c hc
  simp [front, hc]

theorem front_ne_nil (r : Shown) : y.front l r ≠ [] := fun h =>
  y.mark_ne_nil (List.eq_nil_of_subset_nil (h ▸ mark_subset_front l r))

/-- A record is read off the end of any text, whatever its name and its values are. -/
theorem run_record {r : Shown} (hr : y.Fits r) (closing before : Text) :
    (y.record closing).run (before ++ (y.front l r ++ closing)) = some (r, before) := by
  obtain ⟨name, values⟩ := r
  obtain ⟨hname, hlength⟩ := hr
  have hmark : (before ++ y.lead ++ name ++ y.mark).Neutral :=
    .append (fun h => absurd h y.mark_ne_nil) y.mark_neutral
  have hlead : ∃ c ∈ (before ++ y.lead).getLast?, isBlank c = true := by
    obtain ⟨c, hlast, hblank⟩ := y.lead_blank
    exact ⟨c, by rw [List.getLast?_append, hlast]; rfl, hblank⟩
  rw [front, ← List.append_assoc]
  simp only [← List.append_assoc]
  simp only [record, Option.bind_eq_bind, Option.bind_some, StateT.run_bind, EndReader.run_known,
    EndReader.run_values l y.labels_neutral hlength hmark, EndReader.run_word hlead hname,
    StateT.run_pure, Option.pure_def]

/-- The records between a text that is known to stand before them and one that is known to follow. -/
def read (y : RecordLayout) (head foot given : Text) : Option (List Shown) :=
  match given.dropSuffix? foot with
  | none => none
  | some body =>
    if body = head ++ y.placeholder then some []
    else EndReader.itemsFrom y.record y.separator head y.final body []

/-- The text of records: one after the other, or the placeholder if there is none. -/
inductive Lays (y : RecordLayout) (l : Language) : List Shown → Text → Prop
  | records (rs : List Shown) :
    Lays y l rs (EndReader.closedItems (y.front l) y.separator y.final rs)
  | placeholder : Lays y l [] y.placeholder

theorem mark_subset_closedItems (r : Shown) (rs : List Shown) :
    y.mark ⊆ EndReader.closedItems (y.front l) y.separator y.final (r :: rs) := by
  cases rs with
  | nil => exact List.subset_append_of_subset_left _ (mark_subset_front l r)
  | cons next rs =>
    exact List.subset_append_of_subset_left _
      (List.subset_append_of_subset_left _ (mark_subset_front l r))

/-- **What a layout laid out is read back.** -/
theorem read_of_lays {rs : List Shown} {body : Text} (hbody : y.Lays l rs body)
    (hfits : ∀ r ∈ rs, y.Fits r) (head foot : Text) :
    y.read head foot (head ++ body ++ foot) = some rs := by
  rw [read, EndReader.dropSuffix?_append]
  simp only
  cases hbody with
  | placeholder => rw [if_pos rfl]
  | records =>
    have hitems : EndReader.itemsFrom y.record y.separator head y.final
        (head ++ EndReader.closedItems (y.front l) y.separator y.final rs) [] = some (rs ++ []) :=
      EndReader.itemsFrom_closedItems
        (fun r hr => ⟨front_ne_nil l r, run_record l (hfits r hr)⟩) y.final []
    split
    · rename_i hplaceholder
      cases rs with
      | nil => rfl
      | cons r rs =>
        -- There is a record, and some character of its mark is not one of the placeholder's.
        obtain ⟨c, hmark, hc⟩ := List.any_eq_true.mp y.mark_not_placeholder
        have hmem := mark_subset_closedItems l r rs hmark
        rw [List.append_cancel_left hplaceholder] at hmem
        exact absurd hmem (by simpa using hc)
    · simpa using hitems

end RecordLayout

/-! ## 3. The two readers -/

section Languages

variable (l : Language)

/-- What an enumeration has between a name and the values. -/
def instanceMark : Text :=
  match l with
  | .go => " = ".toList ++ enumerationName ++ ['\x7b']
  | .java | .kotlin => ['(']
  | .python => " = ".toList ++ recordTypeName ++ ['(']
  | .javascript => ": Object.freeze(\x7b ".toList

/-- What an enumeration has before the value of a field. -/
def instanceLabel (field : Text) : Text :=
  match l with
  | .javascript => field ++ ": ".toList
  | _ => []

/-- What an enumeration has after the values, whichever record it is. -/
def instanceClose : Text :=
  match l with
  | .go => ['\x7d']
  | .java | .kotlin | .python => [')']
  | .javascript => " \x7d),".toList

/-- What an enumeration has between two records and what it has after the last, line ends left out. -/
def instanceEndings : Text × Text :=
  match l with
  | .java => ([','], [';'])
  | .kotlin => ([','], [])
  | _ => ([], [])

def enumerationLayout (fields : List Text) : RecordLayout where
  lead := l.indent
  mark := instanceMark l
  labels := fields.map (instanceLabel l)
  separator := instanceClose l ++ (instanceEndings l).1 ++ ['\n']
  final := instanceClose l ++ (instanceEndings l).2 ++ ['\n']
  placeholder := if l = .java then "    ;\n".toList else []
  lead_blank := by cases l <;> exact ⟨_, rfl, by decide⟩
  mark_neutral := by cases l <;> decide
  labels_neutral label h := by
    obtain ⟨field, -, rfl⟩ := List.mem_map.mp h
    cases l <;> simp [instanceLabel, Text.Neutral]
  mark_not_placeholder := by cases l <;> decide

@[simp] theorem labels_enumerationLayout (fields : List Text) :
    (enumerationLayout l fields).labels = fields.map (instanceLabel l) := rfl

/-- What the constants of an attribute have before a name. -/
def constantLead : Text :=
  l.indent ++
    match l with
    | .java => "String ".toList
    | .kotlin => "const val ".toList
    | _ => []

/-- What the constants of an attribute have between a name and its value. -/
def constantMark : Text :=
  match l with
  | .javascript => ": ".toList
  | _ => " = ".toList

/-- What the constants of an attribute have after a value. -/
def constantClose : Text :=
  match l with
  | .java => [';']
  | .javascript => [',']
  | _ => []

def constantsLayout : RecordLayout where
  lead := constantLead l
  mark := constantMark l
  labels := [[]]
  separator := constantClose l ++ ['\n']
  final := constantClose l ++ ['\n']
  placeholder := if l = .python then "    pass\n".toList else []
  lead_blank := by cases l <;> exact ⟨_, rfl, by decide⟩
  mark_neutral := by cases l <;> decide
  labels_neutral := by decide
  mark_not_placeholder := by cases l <;> decide

variable (package : Option Text)

/-- What stands before the records of an enumeration, the placeholder left out. -/
def beforeInstances (fields : List Text) : Text :=
  Text.ofLines (packageLines l package ++ enumerationHead l fields false)

def beforeConstants (attr : Text) : Text :=
  Text.ofLines (packageLines l package ++ [constantsOpening l attr.upperCamel])

/-- **Reads an enumeration back.** Nothing is known of the records. -/
def readEnumeration (attributes : List Text) (given : Text) : Option (List Shown) :=
  let fields := attributes.map l.fieldName
  (enumerationLayout l fields).read (beforeInstances l package fields)
    (Text.ofLines (enumerationFoot l attributes fields)) given

/-- **Reads the constants of an attribute back.** Nothing is known of the records. -/
def readConstants (attr given : Text) : Option (List (Text × Text)) :=
  ((constantsLayout l).read (beforeConstants l package attr)
    (Text.ofLines (constantsClosing l false)) given).map
      fun shown => shown.map fun r => (r.1, r.2.headD [])

end Languages

end ErrorCatalog
