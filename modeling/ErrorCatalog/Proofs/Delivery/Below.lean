import ErrorCatalog.Catalog.Build
import ErrorCatalog.Delivery
import ErrorCatalog.Proofs.Artifact.Naming
import ErrorCatalog.Proofs.File.Path

/-!
# `ErrorCatalog/Proofs/Delivery/Below.lean` — which artifacts stay in the directory of their language

An artifact is meant to go into the directory of its language, below the root, under its file name:
`Artifact.StaysBelow` says so in parts of paths, where it does not matter how the root is spelled.

It is not true of every artifact. The file name comes from the header of the input, camel case cleans
nothing, and joining gives a slash its usual meaning: a name that starts with one replaces the root,
and `..` leads out of it. A slash is also the only thing that can go wrong. Without one a file name is
a single part, because the extension keeps it from being `.` or `..`. So the exact condition is on the
attributes, one by one (`renderAll_staysBelow_iff`).
-/

set_option autoImplicit false

namespace ErrorCatalog

/-- Whether an artifact that is delivered below a root goes into the directory of its language, under
its file name. -/
def Artifact.StaysBelow (a : Artifact) (root : Path) : Prop :=
  (a.pathBelow root).parts = root.parts ++ [.name a.language.id, .name a.fileName]

instance (a : Artifact) (root : Path) : Decidable (a.StaysBelow root) :=
  inferInstanceAs (Decidable (_ = _))

theorem Language.isName_id (l : Language) : IsName l.id := by
  cases l <;> exact ⟨by decide, by decide, by decide, by decide⟩

/-- A file name without a slash is one part: it has its extension, so it is no dot and no two dots. -/
theorem Artifact.isName_fileName {a : Artifact} (h : '/' ∉ a.name) : IsName a.fileName := by
  have hextension : 2 ≤ a.language.extension.length := by cases a.language <;> decide
  have hlength : 3 ≤ a.fileName.length := by
    rw [fileName, List.length_append, List.length_cons]
    omega
  have hne : ∀ t : Text, t.length < 3 → a.fileName ≠ t := by
    rintro t ht rfl
    exact absurd hlength (Nat.not_le_of_lt ht)
  exact ⟨hne _ (by decide), hne _ (by decide), hne _ (by decide), mt a.slash_mem_fileName_iff.mp h⟩

theorem Artifact.staysBelow_iff (a : Artifact) (root : Path) : a.StaysBelow root ↔ '/' ∉ a.name := by
  constructor
  · intro h
    -- The file name is a part of some path, and no part has a slash.
    have hpart : .name a.fileName ∈ (a.pathBelow root).parts := by
      rw [h]
      simp
    exact mt a.slash_mem_fileName_iff.mpr (Path.no_slash_of_mem_parts hpart)
  · intro h
    rw [StaysBelow, pathBelow, Path.parts_join_name _ (isName_fileName h),
      Path.parts_join_name _ a.language.isName_id, List.append_assoc]
    rfl

/-- **An artifact stays in the directory of its language exactly if its attribute has no slash.** The
artifact with all attributes always does. All of them do exactly if no attribute has a slash, whatever
the root, the language and the records are. -/
theorem renderAll_staysBelow_iff (c : Catalog) (l : Language) (package : Option Text) (root : Path) :
    (∀ a ∈ renderAll c l package, a.language = l ∧
      (a.StaysBelow root ↔ ∀ attr column, a.kind = .constants attr column → '/' ∉ attr)) ∧
    ((∀ a ∈ renderAll c l package, a.StaysBelow root) ↔ ∀ attr ∈ c.attributes, '/' ∉ attr) := by
  refine ⟨fun a ha => ⟨language_of_mem_renderAll ha, ?_⟩, ?_⟩
  · rw [a.staysBelow_iff root, slash_mem_name_iff ha]
    constructor
    · exact fun h attr column hkind hslash => h ⟨attr, column, hkind, hslash⟩
    · rintro h ⟨attr, column, hkind, hslash⟩
      exact h attr column hkind hslash
  · rw [← forall_not_slash_mem_name_iff c l package]
    exact forall₂_congr fun a _ => a.staysBelow_iff root

/-- A header from which one artifact replaces the root and another leaves it. -/
theorem exists_artifact_outside :
    ∃ c a b, (Source.ofText inlineName "/x|../../y\n".toList).catalog {} = .ok c ∧
      renderAll c .go none = [a, b, renderEnumeration c .go none] ∧
      a.pathBelow (.ofString "out") = .ofString "/x.go" ∧ ¬ a.StaysBelow (.ofString "out") ∧
      (b.pathBelow (.ofString "out")).parts =
        [.name "out".toList, .name "go".toList, .up, .up, .name "y.go".toList] ∧
      ¬ b.StaysBelow (.ofString "out") := by
  refine ⟨_, _, _, rfl, rfl, ?_, ?_, ?_, ?_⟩ <;> decide +kernel

end ErrorCatalog
