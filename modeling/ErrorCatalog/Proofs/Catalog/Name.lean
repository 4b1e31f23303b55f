import ErrorCatalog.Catalog.Name
import ErrorCatalog.Proofs.Text.Recasing
import ErrorCatalog.Proofs.Text.Words

/-!
# `ErrorCatalog/Proofs/Catalog/Name.lean` — what a record name is, and what it cannot hold

A record name may hold nearly anything: quotation marks, parentheses, commas, braces. The one thing
it cannot hold is a blank. That is what lets generated code be read back: a blank in front of a name
is where the name starts.

`canonicalName` trims, upper-cases and cuts, in this order. That it is the words of the label, each
upper-cased, with an underscore between neighbours (`canonicalName_eq`), is a fact about letter case:
upper-casing must neither make nor move a blank. With it the rest is about words. The name is empty
exactly for a blank label, its ends are the ends of the first and the last word, and a name is its own
name, because upper case is final and what has no blank is one word.
-/

set_option autoImplicit false

namespace ErrorCatalog

/-- A record name holds no blank. -/
theorem RecordName.not_isBlank (name : RecordName) : ∀ c ∈ name.text, isBlank c = false := by
  obtain ⟨text, label, rfl⟩ := name
  intro c hc
  rcases Text.mem_joined hc with h | ⟨word, hword, hc⟩
  · obtain rfl := List.mem_singleton.mp h
    decide
  · exact (Text.of_mem_pieces (List.mem_filter.mp hword).1 c hc).2

/-- The name of a label by its words. -/
theorem canonicalName_eq (label : Text) :
    canonicalName label = Text.joined ['_'] (label.words.map Text.toUpper) := by
  rw [canonicalName, Text.words_toUpper, Text.words_trim]

theorem upperWord_ne_nil {label w : Text} (hw : w ∈ label.words.map Text.toUpper) : w ≠ [] := by
  obtain ⟨word, hword, rfl⟩ := List.mem_map.mp hw
  exact Text.toUpper_ne_nil (Text.of_mem_words hword).1

/-- A name is in upper case throughout. -/
theorem upper_of_mem_canonicalName {label : Text} {c : Char} (hc : c ∈ canonicalName label) :
    upper c = [c] := by
  rw [canonicalName_eq] at hc
  rcases Text.mem_joined hc with h | ⟨w, hw, hmem⟩
  · obtain rfl := List.mem_singleton.mp h
    exact caseImage_of_apart apart_upper (by decide)
  · obtain ⟨word, -, rfl⟩ := List.mem_map.mp hw
    exact Text.upper_of_mem_toUpper hmem

theorem canonicalName_eq_nil_iff {label : Text} :
    canonicalName label = [] ↔ ∀ c ∈ label, isBlank c = true := by
  rw [← Text.words_eq_nil_iff, canonicalName_eq]
  constructor
  · intro h
    cases hwords : label.words with
    | nil => rfl
    | cons w rest =>
      have hhead := Text.head?_joined ['_'] fun w (hw : w ∈ label.words.map Text.toUpper) =>
        upperWord_ne_nil hw
      have hw : w ∈ label.words := hwords ▸ List.mem_cons_self
      have hne : w.toUpper ≠ [] := Text.toUpper_ne_nil (Text.of_mem_words hw).1
      rw [h, hwords] at hhead
      exact absurd (List.head?_eq_none_iff.mp hhead.symm) hne
  · intro h
    rw [h]
    rfl

/-- **A name is its own name.** -/
theorem canonicalName_canonicalName (label : Text) :
    canonicalName (canonicalName label) = canonicalName label := by
  have hblank : ∀ c ∈ canonicalName label, isBlank c = false :=
    (RecordName.ofLabel label).not_isBlank
  have hupper : (canonicalName label).toUpper = canonicalName label :=
    Text.toUpper_eq_self fun c => upper_of_mem_canonicalName
  by_cases hne : canonicalName label = []
  · rw [hne]
    rfl
  · rw [canonicalName_eq (canonicalName label), Text.words_of_forall_not_isBlank hne hblank,
      List.map_singleton, Text.joined_singleton, hupper]

/-- A name starts with an underscore exactly if the first word does. -/
theorem head?_canonicalName_iff {label : Text} :
    (canonicalName label).head? = some '_' ↔
      ∃ w, label.words.head? = some w ∧ w.head? = some '_' := by
  rw [canonicalName_eq, Text.head?_joined _ fun w => upperWord_ne_nil, List.head?_map,
    Option.bind_map, Option.bind_eq_some_iff]
  exact exists_congr fun w => and_congr_right fun _ =>
    Text.head?_toUpper_eq_some_iff (by decide) w

/-- A name ends in an underscore exactly if the last word does. -/
theorem getLast?_canonicalName_iff {label : Text} :
    (canonicalName label).getLast? = some '_' ↔
      ∃ w, label.words.getLast? = some w ∧ w.getLast? = some '_' := by
  rw [canonicalName_eq, Text.getLast?_joined _ fun w => upperWord_ne_nil, List.getLast?_map,
    Option.bind_map, Option.bind_eq_some_iff]
  exact exists_congr fun w => and_congr_right fun _ =>
    Text.getLast?_toUpper_eq_some_iff (by decide) w

/-- **The canonical form of a label.** A label splits into words in one way. Its name is these words,
each in upper case, with one underscore between neighbours. No blank is in it; it starts and ends with
an underscore only where the first and the last word do; it is empty exactly if the label is blank; and
the name of a name is the name. -/
theorem canonicalName_joins_upper_words (label : Text) :
    (∀ ws, label.SplitsInto ws ↔ label.words = ws) ∧
    canonicalName label = Text.joined ['_'] (label.words.map Text.toUpper) ∧
    (∀ c ∈ canonicalName label, isBlank c = false) ∧
    ((canonicalName label).head? = some '_' ↔
      ∃ w, label.words.head? = some w ∧ w.head? = some '_') ∧
    ((canonicalName label).getLast? = some '_' ↔
      ∃ w, label.words.getLast? = some w ∧ w.getLast? = some '_') ∧
    (canonicalName label = [] ↔ ∀ c ∈ label, isBlank c = true) ∧
    canonicalName (canonicalName label) = canonicalName label :=
  ⟨fun _ => Text.splitsInto_iff, canonicalName_eq label, (RecordName.ofLabel label).not_isBlank,
    head?_canonicalName_iff, getLast?_canonicalName_iff, canonicalName_eq_nil_iff,
    canonicalName_canonicalName label⟩

/-- Letters with several upper case letters, and underscores that are not blanks. -/
example : canonicalName "\u00A0_ŉa\u2028 straße_\t".toList = "_ʼNA_STRASSE_".toList := by
  decide +kernel

end ErrorCatalog
