import Mathlib.Data.List.Basic
import Mathlib.Data.List.Nodup
import ErrorCatalog.Artifact.All
import ErrorCatalog.Proofs.Text.Camel

/-!
# `ErrorCatalog/Proofs/Artifact/Naming.lean` — what the artifacts of a language are called

An artifact is called like its attribute in camel case, and one more has a name of its own. The names
are lined up here with the attributes (`map_name_renderAll`), so that what is true of the names can be
read off the attributes: whether two are the same, and whether one has a slash in it.

The extension adds nothing to either question. It is the same for all artifacts of a language, and it
has no slash.
-/

set_option autoImplicit false

namespace ErrorCatalog

/-! ## 1. The artifacts of a language -/

section All

variable {c : Catalog} {l : Language} {package : Option Text} {a : Artifact}

theorem renderConstants_eq_some_iff {column : Nat} :
    renderConstants c column l package = some a ↔ ∃ attr, c.attributes[column]? = some attr ∧
      a = ⟨attr.upperCamel, l, .constants attr column,
        Text.ofLines (constantsLines c column attr.upperCamel l package)⟩ := by
  rw [renderConstants, Option.map_eq_some_iff]
  exact exists_congr fun attr => and_congr_right fun _ => eq_comm

theorem mem_renderAll_iff :
    a ∈ renderAll c l package ↔
      (∃ column, renderConstants c column l package = some a) ∨
        a = renderEnumeration c l package := by
  rw [renderAll, List.mem_append, List.mem_filterMap, List.mem_singleton]
  refine or_congr_left ⟨fun ⟨column, _, h⟩ => ⟨column, h⟩, fun ⟨column, h⟩ => ⟨column, ?_, h⟩⟩
  obtain ⟨attr, hattr, -⟩ := renderConstants_eq_some_iff.mp h
  exact List.mem_range.mpr (List.getElem?_eq_some_iff.mp hattr).1

theorem language_of_mem_renderAll (h : a ∈ renderAll c l package) : a.language = l := by
  rcases mem_renderAll_iff.mp h with ⟨column, hcolumn⟩ | rfl
  · obtain ⟨attr, -, rfl⟩ := renderConstants_eq_some_iff.mp hcolumn
    rfl
  · rfl

variable (c l package)

/-- **The names**: those of the attributes in camel case, in order, and that of the artifact with all
attributes. -/
theorem map_name_renderAll :
    (renderAll c l package).map (·.name) = c.attributes.map Text.upperCamel ++ [enumerationName] := by
  have hnames : ((List.range c.width).filterMap fun column =>
      (renderConstants c column l package).map (·.name)) =
        (List.range c.width).map fun column => (c.attributes.getD column []).upperCamel := by
    refine List.filterMap_eq_map_iff_forall_eq_some.mpr fun column hcolumn => ?_
    have hattr := List.getElem?_eq_getElem (List.mem_range.mp hcolumn)
    simp only [renderConstants, List.getD_eq_getElem?_getD, hattr, Option.map_some, Option.getD_some]
  rw [renderAll, List.map_append, List.map_filterMap, hnames]
  refine congrArg (· ++ [enumerationName]) (List.ext_getElem (by simp [Catalog.width]) ?_)
  intro column hleft hright
  have hcolumn : column < c.attributes.length := by simpa using hright
  simp [hcolumn]

theorem length_renderAll : (renderAll c l package).length = c.width + 1 := by
  have h := congrArg List.length (map_name_renderAll c l package)
  simpa [Catalog.width] using h

end All

/-! ## 2. File names -/

/-- The file names are pairwise different exactly if the camel case forms are, and none of them is the
name of the artifact with all attributes. -/
theorem nodup_fileNames_iff (c : Catalog) (l : Language) (package : Option Text) :
    ((renderAll c l package).map (·.fileName)).Nodup ↔
      (c.attributes.map Text.upperCamel).Nodup ∧
        enumerationName ∉ c.attributes.map Text.upperCamel := by
  have hfiles : (renderAll c l package).map (·.fileName) =
      ((renderAll c l package).map (·.name)).map (· ++ '.' :: l.extension) := by
    rw [List.map_map]
    refine List.map_congr_left fun a ha => ?_
    rw [Artifact.fileName, language_of_mem_renderAll ha]
    rfl
  rw [hfiles, List.nodup_map_iff fun t u h => List.append_cancel_right h, map_name_renderAll,
    ← List.concat_eq_append, List.nodup_concat, and_comm]

/-! ## 3. Slashes -/

theorem Artifact.slash_mem_fileName_iff (a : Artifact) : '/' ∈ a.fileName ↔ '/' ∈ a.name := by
  have hextension : '/' ∉ '.' :: a.language.extension := by cases a.language <;> decide
  rw [fileName, List.mem_append]
  exact or_iff_left hextension

theorem slash_mem_name_iff {c : Catalog} {l : Language} {package : Option Text} {a : Artifact}
    (h : a ∈ renderAll c l package) :
    '/' ∈ a.name ↔ ∃ attr column, a.kind = .constants attr column ∧ '/' ∈ attr := by
  rcases mem_renderAll_iff.mp h with ⟨column, hcolumn⟩ | rfl
  · obtain ⟨attr, -, rfl⟩ := renderConstants_eq_some_iff.mp hcolumn
    rw [Text.mem_upperCamel_iff (by decide) (by decide)]
    constructor
    · exact fun hslash => ⟨attr, column, rfl, hslash⟩
    · rintro ⟨other, _, hkind, hslash⟩
      obtain ⟨rfl, rfl⟩ := ArtifactKind.constants.inj hkind
      exact hslash
  · constructor
    · intro hslash
      exact absurd hslash (by decide : '/' ∉ enumerationName)
    · rintro ⟨_, _, hkind, -⟩
      cases hkind

theorem forall_not_slash_mem_name_iff (c : Catalog) (l : Language) (package : Option Text) :
    (∀ a ∈ renderAll c l package, '/' ∉ a.name) ↔ ∀ attr ∈ c.attributes, '/' ∉ attr := by
  have hnames : (∀ a ∈ renderAll c l package, '/' ∉ a.name) ↔
      ∀ name ∈ (renderAll c l package).map (·.name), '/' ∉ name := by simp
  have henumeration : '/' ∉ enumerationName := by decide
  rw [hnames, map_name_renderAll, List.forall_mem_append, List.forall_mem_singleton,
    and_iff_left henumeration, List.forall_mem_map]
  refine forall₂_congr fun attr _ => not_congr ?_
  exact Text.mem_upperCamel_iff (by decide) (by decide) attr

end ErrorCatalog
