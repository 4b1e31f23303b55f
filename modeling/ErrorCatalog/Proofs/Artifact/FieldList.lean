import Mathlib.Data.List.Induction
import ErrorCatalog.Artifact.Enumeration
import ErrorCatalog.Catalog.Build
import ErrorCatalog.Proofs.Language.Reader
import ErrorCatalog.Proofs.Text.Camel

/-!
# `ErrorCatalog/Proofs/Artifact/FieldList.lean` — the fields of a Python record type

A Python enumeration gives its record type the names of the fields as a list of literals. They are not
written as values are: a field is put between quotation marks as it stands (`bareLiteral`), and camel case
takes neither quotation marks nor backslashes away. So a header can close the literal it is in, and the
bracket after it, and what is left of it is code.

`readList` reads such a list from behind its opening bracket. What it can find is settled field by field.

* `readValue_bareLiteral`: a field with neither character is read as it is.
* `plain_of_readValue`: no other field is. A quotation mark cuts the value short; and after a backslash
  the value has one character less than the text, from there on, which the closing quotation mark would
  have to make up for (`value_ne_backslashes`).
-/

set_option autoImplicit false

namespace ErrorCatalog

/-! ## 1. Lists of literals -/

/-- The value of the literal that a text starts with, and what follows it. -/
def readValue (t : Text) : Option (Text × Text) :=
  (readLiteral t).map fun (read, after) => (read.map (·.2), after)

theorem length_lt_of_readBody {t after : Text} {read : List (ReaderState × Char)} :
    ∀ {state : ReaderState}, readBody state t = some (read, after) → after.length < t.length := by
  induction t generalizing read with
  | nil => intro state h; cases h
  | cons c rest ih =>
    intro state h
    unfold readBody at h
    split at h
    · cases h
      exact Nat.lt_succ_self _
    · split at h
      · exact Nat.lt_succ_of_lt (ih h)
      · obtain ⟨⟨later, left⟩, hlater, heq⟩ := Option.map_eq_some_iff.mp h
        cases heq
        exact Nat.lt_succ_of_lt (ih hlater)

theorem length_lt_of_readValue {t value after : Text} (h : readValue t = some (value, after)) :
    after.length < t.length := by
  obtain ⟨⟨read, left⟩, hread, heq⟩ := Option.map_eq_some_iff.mp h
  cases heq
  unfold readLiteral at hread
  split at hread
  · exact Nat.lt_succ_of_lt (length_lt_of_readBody hread)
  · cases hread

def withoutSpaces (t : Text) : Text := t.dropWhile (· == ' ')

theorem length_withoutSpaces_le (t : Text) : (withoutSpaces t).length ≤ t.length :=
  (List.dropWhile_sublist _).length_le

/-- Reads literals with commas between them, up to the bracket behind the last: their values, and what
follows the bracket. -/
def readItems (t : Text) : Option (List Text × Text) :=
  match _ : readValue t with
  | none => none
  | some (value, after) =>
    match _ : withoutSpaces after with
    | ']' :: rest => some ([value], rest)
    | ',' :: rest =>
      (readItems (withoutSpaces rest)).map fun (values, left) => (value :: values, left)
    | _ => none
termination_by t.length
decreasing_by
  have hvalue := length_lt_of_readValue ‹readValue t = _›
  have hspaces := length_withoutSpaces_le after
  have hrest := length_withoutSpaces_le rest
  rename_i hcomma
  rw [hcomma, List.length_cons] at hspaces
  omega

/-- Reads a list from behind its opening bracket. -/
def readList : Text → Option (List Text × Text)
  | ']' :: rest => some ([], rest)
  | t => readItems t

theorem readItems_last {t value rest : Text} (h : readValue t = some (value, ']' :: rest)) :
    readItems t = some ([value], rest) := by
  rw [readItems]
  split
  · rename_i hnone
    rw [hnone] at h
    cases h
  · rename_i other after hsome
    rw [hsome] at h
    cases h
    rfl

theorem readItems_next {t value rest : Text}
    (h : readValue t = some (value, ", ".toList ++ '"' :: rest)) :
    readItems t =
      (readItems ('"' :: rest)).map fun (values, left) => (value :: values, left) := by
  rw [readItems]
  split
  · rename_i hnone
    rw [hnone] at h
    cases h
  · rename_i other after hsome
    rw [hsome] at h
    cases h
    rfl

theorem readValue_of_readItems {t value left : Text} {values : List Text}
    (h : readItems t = some (value :: values, left)) : ∃ after, readValue t = some (value, after) := by
  rw [readItems] at h
  split at h
  · cases h
  · rename_i first after hsome
    split at h
    · cases h
      exact ⟨after, hsome⟩
    · obtain ⟨⟨others, rest⟩, -, heq⟩ := Option.map_eq_some_iff.mp h
      cases heq
      exact ⟨after, hsome⟩
    · cases h

/-! ## 2. Fields between quotation marks -/

/-- A text between quotation marks as it stands. -/
def bareLiteral (field : Text) : Text := '"' :: field ++ ['"']

theorem bareLiteral_append (field rest : Text) :
    bareLiteral field ++ rest = '"' :: (field ++ '"' :: rest) := by
  simp [bareLiteral]

/-- A list of fields, if it is not empty, starts with a quotation mark. -/
theorem exists_commaList_bareLiterals (field : Text) (fields : List Text) (rest : Text) :
    ∃ tail, commaList ((field :: fields).map bareLiteral) ++ rest = '"' :: tail := by
  cases fields with
  | nil => exact ⟨_, bareLiteral_append field rest⟩
  | cons next fields =>
    simp only [commaList, List.map_cons, Text.joined_cons_cons, List.append_assoc, bareLiteral_append]
    exact ⟨_, rfl⟩

theorem readValue_escaped (c : Char) (rest : Text) :
    readValue ('"' :: '\\' :: c :: rest) =
      (readValue ('"' :: rest)).map fun (value, after) => (c :: value, after) := by
  simp [readValue, readLiteral, readBody, ReaderState.next, Function.comp_def]

theorem readValue_plain {c : Char} (hquote : c ≠ '"') (hbackslash : c ≠ '\\') (rest : Text) :
    readValue ('"' :: c :: rest) =
      (readValue ('"' :: rest)).map fun (value, after) => (c :: value, after) := by
  simp [readValue, readLiteral, readBody, ReaderState.next, hquote, hbackslash, Function.comp_def]

/-- A field without quotation marks and backslashes is read as it is, by induction on the field. -/
theorem readValue_bareLiteral {field : Text} (h : '"' ∉ field ∧ '\\' ∉ field) (rest : Text) :
    readValue (bareLiteral field ++ rest) = some (field, rest) := by
  rw [bareLiteral_append]
  induction field with
  | nil => rfl
  | cons c field ih =>
    obtain ⟨hquote, hquotes⟩ := List.ne_and_not_mem_of_not_mem_cons h.1
    obtain ⟨hbackslash, hbackslashes⟩ := List.ne_and_not_mem_of_not_mem_cons h.2
    rw [List.cons_append, readValue_plain (Ne.symm hquote) (Ne.symm hbackslash),
      ih ⟨hquotes, hbackslashes⟩]
    rfl

/-- A value starts with a backslash only if its literal does, and with another one after that. -/
theorem exists_of_readValue_backslash {t value after : Text}
    (h : readValue ('"' :: t) = some ('\\' :: value, after)) :
    ∃ rest, t = '\\' :: '\\' :: rest ∧ readValue ('"' :: rest) = some (value, after) := by
  cases t with
  | nil => cases h
  | cons c rest =>
    by_cases hquote : c = '"'
    · subst hquote
      cases h
    by_cases hbackslash : c = '\\'
    · subst hbackslash
      cases rest with
      | nil => cases h
      | cons d rest =>
        rw [readValue_escaped] at h
        obtain ⟨⟨later, left⟩, hlater, heq⟩ := Option.map_eq_some_iff.mp h
        cases heq
        exact ⟨rest, rfl, hlater⟩
    · rw [readValue_plain hquote hbackslash] at h
      obtain ⟨⟨later, left⟩, -, heq⟩ := Option.map_eq_some_iff.mp h
      cases heq
      exact absurd rfl hbackslash

/-- **A value does not catch up with its literal.** It is not the text with backslashes in front: that
takes two backslashes of the text for one of the value, and the next character is then the same as before
with one backslash more in front. By induction on the text, two characters at a time. -/
theorem value_ne_backslashes (field rest : Text) : ∀ (n : Nat) {value after : Text},
    readValue ('"' :: (field ++ '"' :: rest)) = some (value, after) →
      value ≠ List.replicate (n + 1) '\\' ++ field := by
  induction field using List.twoStepInduction with
  | nil =>
    rintro n value after h rfl
    obtain ⟨later, heq, -⟩ := exists_of_readValue_backslash h
    cases heq
  | singleton c =>
    rintro n value after h rfl
    obtain ⟨later, heq, -⟩ := exists_of_readValue_backslash h
    cases heq
  | cons_cons c d field ih =>
    rintro n value after h rfl
    obtain ⟨later, heq, hlater⟩ := exists_of_readValue_backslash h
    cases heq
    have hmore : List.replicate n '\\' ++ '\\' :: '\\' :: field =
        List.replicate (n + 1 + 1) '\\' ++ field := by
      rw [List.append_cons, List.append_cons, ← List.replicate_succ', ← List.replicate_succ']
    exact ih (n + 1) hlater hmore

/-- A field that is read as it is has neither quotation marks nor backslashes. -/
theorem plain_of_readValue {field rest after : Text}
    (h : readValue (bareLiteral field ++ rest) = some (field, after)) :
    '"' ∉ field ∧ '\\' ∉ field := by
  rw [bareLiteral_append] at h
  induction field with
  | nil => exact ⟨List.not_mem_nil, List.not_mem_nil⟩
  | cons c field ih =>
    by_cases hquote : c = '"'
    · subst hquote
      cases h
    by_cases hbackslash : c = '\\'
    · subst hbackslash
      obtain ⟨later, heq, hlater⟩ := exists_of_readValue_backslash h
      cases field with
      | nil => cases heq
      | cons d field =>
        cases heq
        exact absurd rfl (value_ne_backslashes field rest 0 hlater)
    · rw [List.cons_append, readValue_plain hquote hbackslash] at h
      obtain ⟨⟨later, left⟩, hlater, heq⟩ := Option.map_eq_some_iff.mp h
      cases heq
      obtain ⟨hquotes, hbackslashes⟩ := ih hlater
      exact ⟨List.not_mem_cons_of_ne_of_not_mem (Ne.symm hquote) hquotes,
        List.not_mem_cons_of_ne_of_not_mem (Ne.symm hbackslash) hbackslashes⟩

/-- **A list of fields is read as it is** exactly if no field has a quotation mark or a backslash, by
induction on the fields. -/
theorem readItems_bareLiterals_iff (fields : List Text) (rest : Text) : ∀ field : Text,
    readItems (commaList ((field :: fields).map bareLiteral) ++ ']' :: rest) =
        some (field :: fields, rest) ↔
      ∀ f ∈ field :: fields, '"' ∉ f ∧ '\\' ∉ f := by
  induction fields with
  | nil =>
    intro field
    have htext : commaList ([field].map bareLiteral) ++ ']' :: rest =
        bareLiteral field ++ ']' :: rest := rfl
    rw [htext, List.forall_mem_singleton]
    constructor
    · intro h
      obtain ⟨after, hvalue⟩ := readValue_of_readItems h
      exact plain_of_readValue hvalue
    · intro h
      exact readItems_last (readValue_bareLiteral h _)
  | cons next fields ih =>
    intro field
    have htext : commaList ((field :: next :: fields).map bareLiteral) ++ ']' :: rest =
        bareLiteral field ++ (", ".toList ++
          (commaList ((next :: fields).map bareLiteral) ++ ']' :: rest)) := by
      simp only [commaList, List.map_cons, Text.joined_cons_cons, List.append_assoc]
    obtain ⟨tail, htail⟩ := exists_commaList_bareLiterals next fields (']' :: rest)
    have hstep : '"' ∉ field ∧ '\\' ∉ field →
        readItems (bareLiteral field ++ (", ".toList ++ '"' :: tail)) =
          (readItems ('"' :: tail)).map fun (values, left) => (field :: values, left) :=
      fun h => readItems_next (readValue_bareLiteral h _)
    rw [List.forall_mem_cons, ← ih next, htext, htail]
    constructor
    · intro h
      obtain ⟨after, hvalue⟩ := readValue_of_readItems h
      have hplain := plain_of_readValue hvalue
      refine ⟨hplain, ?_⟩
      rw [hstep hplain] at h
      obtain ⟨⟨values, left⟩, hvalues, heq⟩ := Option.map_eq_some_iff.mp h
      cases heq
      exact hvalues
    · rintro ⟨hplain, hrest⟩
      rw [hstep hplain, hrest]
      rfl

theorem readList_bareLiterals_iff (fields : List Text) (rest : Text) :
    readList (commaList (fields.map bareLiteral) ++ ']' :: rest) = some (fields, rest) ↔
      ∀ f ∈ fields, '"' ∉ f ∧ '\\' ∉ f := by
  cases fields with
  | nil => exact ⟨fun _ _ h => absurd h List.not_mem_nil, fun _ => rfl⟩
  | cons field fields =>
    rw [← readItems_bareLiterals_iff fields rest field]
    cases fields <;> rfl

/-! ## 3. Enumerations -/

/-- The beginning of a Python enumeration, with the bracket that opens the list of fields. -/
def fieldListOpening : Text :=
  Text.ofLines ["from collections import namedtuple".toList, "from enum import Enum".toList, []] ++
    (recordTypeName ++ " = namedtuple(\"".toList ++ recordTypeName ++ "\", [".toList)

/-- What a Python enumeration has behind the list of fields. -/
def behindFieldList (c : Catalog) : Text :=
  let fields := c.attributes.map (Language.fieldName .python)
  Text.ofLines ([[')'], [], [], "class ".toList ++ enumerationName ++ "(Enum):".toList] ++
    instanceLines .python fields (c.records.map (Instance.ofRecord .python c.width)) ++
    enumerationFoot .python c.attributes fields)

theorem packageLines_python (package : Option Text) : packageLines .python package = [] := by
  unfold packageLines
  cases effectivePackage package <;> rfl

theorem contents_renderEnumeration_python (c : Catalog) (package : Option Text) :
    (renderEnumeration c .python package).contents = fieldListOpening ++
      (commaList ((c.attributes.map (Language.fieldName .python)).map bareLiteral) ++
        ']' :: behindFieldList c) := by
  have hclosing : "])".toList = [']', ')'] := by decide
  have hbare : (fun field : Text => '"' :: field ++ ['"']) = bareLiteral := rfl
  unfold renderEnumeration enumerationLines enumerationHead fieldListOpening behindFieldList
  rw [packageLines_python, hclosing, hbare]
  -- The texts around the fields stay closed; what is left is where the brackets are put.
  generalize recordTypeName ++ " = namedtuple(\"".toList ++ recordTypeName ++ "\", [".toList = before
  simp only [List.nil_append, Text.ofLines_append, Text.ofLines_cons, Text.ofLines_nil,
    List.append_assoc, List.cons_append]

/-- **Which headers stay inside their literals.** A Python enumeration is the same up to the list of its
fields and behind it, with the fields between quotation marks in the list. Reading the list gives the names
of the fields in order and ends at that place exactly if no attribute has a quotation mark or a backslash. -/
theorem readList_fields_iff (c : Catalog) (package : Option Text) :
    let fields := c.attributes.map (Language.fieldName .python)
    let contents := (renderEnumeration c .python package).contents
    contents = fieldListOpening ++ (commaList (fields.map bareLiteral) ++ ']' :: behindFieldList c) ∧
    (readList (contents.drop fieldListOpening.length) = some (fields, behindFieldList c) ↔
      ∀ attr ∈ c.attributes, '"' ∉ attr ∧ '\\' ∉ attr) := by
  intro fields contents
  have hcontents : contents = _ := contents_renderEnumeration_python c package
  refine ⟨hcontents, ?_⟩
  have hfields : (∀ f ∈ fields, '"' ∉ f ∧ '\\' ∉ f) ↔
      ∀ attr ∈ c.attributes, '"' ∉ attr ∧ '\\' ∉ attr := by
    have hquote := fun attr => Text.mem_camel_iff (by decide : inRanges symbolRanges '"' = true)
      (by decide) (Language.fieldCase .python) attr
    have hbackslash := fun attr => Text.mem_camel_iff (by decide : inRanges symbolRanges '\\' = true)
      (by decide) (Language.fieldCase .python) attr
    simp only [fields, List.forall_mem_map, Language.fieldName, hquote, hbackslash]
  rw [← hfields, ← readList_bareLiterals_iff fields (behindFieldList c), hcontents, List.drop_left]

/-- The header `x"]),print(["y`. The list that is read has one field, ends in the middle of the header,
and what follows it calls a function. -/
theorem exists_header_outside_literal :
    ∃ c, (Source.ofText inlineName "x\"]),print([\"y\n".toList).catalog {} = .ok c ∧
      c.attributes.map (Language.fieldName .python) = ["x\"]),print([\"y".toList] ∧
      ∀ package, readList ((renderEnumeration c .python package).contents.drop fieldListOpening.length) =
        some (["x".toList], "),print([\"y\"]".toList ++ behindFieldList c) := by
  have hheader : ∃ c, (Source.ofText inlineName "x\"]),print([\"y\n".toList).catalog {} = .ok c ∧
      c.attributes = ["x\"]),print([\"y".toList] := ⟨_, rfl, by decide⟩
  obtain ⟨c, hc, hattributes⟩ := hheader
  have hfields : c.attributes.map (Language.fieldName .python) = ["x\"]),print([\"y".toList] := by
    rw [hattributes]
    decide +kernel
  have hliteral : commaList (["x\"]),print([\"y".toList].map bareLiteral) =
      bareLiteral "x".toList ++ ']' :: "),print([\"y\"".toList := by decide
  refine ⟨c, hc, hfields, fun package => ?_⟩
  have hcode : "),print([\"y\"]".toList = "),print([\"y\"".toList ++ [']'] := by decide
  rw [contents_renderEnumeration_python, List.drop_left, hfields, hliteral, hcode, List.append_assoc,
    List.append_assoc]
  generalize "),print([\"y\"".toList = code
  have hplain : '"' ∉ "x".toList ∧ '\\' ∉ "x".toList := by decide
  exact readItems_last (readValue_bareLiteral hplain (']' :: (code ++ ']' :: behindFieldList c)))

end ErrorCatalog
