import Mathlib.Data.List.Dedup
import ErrorCatalog.Catalog.Build
import ErrorCatalog.Delivery
import ErrorCatalog.Proofs.Artifact.Naming
import ErrorCatalog.Proofs.Delivery.Below

/-!
# `ErrorCatalog/Proofs/Delivery/Shelf.lean` — what is on a shelf after any number of deliveries

A shelf keeps one text per place. After any deliveries, what is read at a place is what was delivered
to it last (`Shelf.lookup_addAll`), and the number of places taken is the number of different places
delivered to (`Shelf.size_addAll`). Nothing is lost exactly if no two artifacts have one place.

When that is so for the artifacts of one language is a question about names, with one reservation.
Two file names are the same place already if their *paths* have the same parts, so `a/b` and `a//b`
are one place. Where no attribute has a slash the reservation falls away, and places are different
exactly if file names are.

That attributes are different is not enough. Camel case forgets separators and the case of first
letters, and an attribute may have the name that the artifact with all attributes has.
-/

set_option autoImplicit false

namespace ErrorCatalog

/-! ## 1. Places -/

def Artifact.place (a : Artifact) : List PathPart := (shelfPath a.language a.fileName).parts

def lastAt? (place : List PathPart) (artifacts : List Artifact) : Option Artifact :=
  artifacts.reverse.find? (·.place = place)

theorem lastAt?_cons (place : List PathPart) (a : Artifact) (artifacts : List Artifact) :
    lastAt? place (a :: artifacts) =
      (lastAt? place artifacts).or (if a.place = place then some a else none) := by
  rw [lastAt?, lastAt?, List.reverse_cons, List.find?_append]
  by_cases h : a.place = place
  · simp [h]
  · simp [h]

theorem lastAt?_eq_some_iff {place : List PathPart} {artifacts : List Artifact} {a : Artifact} :
    lastAt? place artifacts = some a ↔ a.place = place ∧
      ∃ before later, artifacts = before ++ a :: later ∧ ∀ b ∈ later, b.place ≠ place := by
  rw [lastAt?, List.find?_eq_some_iff_append]
  simp only [decide_eq_true_eq, Bool.not_eq_eq_eq_not, Bool.not_true, decide_eq_false_iff_not]
  refine and_congr_right fun _ => ⟨?_, ?_⟩
  · rintro ⟨later, before, hsplit, hlater⟩
    refine ⟨before.reverse, later.reverse, ?_, fun b hb => hlater b (List.mem_reverse.mp hb)⟩
    rw [← artifacts.reverse_reverse, hsplit]
    simp
  · rintro ⟨before, later, rfl, hlater⟩
    refine ⟨later.reverse, before.reverse, ?_, fun b hb => hlater b (List.mem_reverse.mp hb)⟩
    simp

theorem lastAt?_eq_none_iff {place : List PathPart} {artifacts : List Artifact} :
    lastAt? place artifacts = none ↔ ∀ a ∈ artifacts, a.place ≠ place := by
  rw [lastAt?, List.find?_eq_none]
  simp only [List.mem_reverse, decide_eq_true_eq, ne_eq]

/-- If no two artifacts have one place, the last at the place of an artifact is that artifact. -/
theorem lastAt?_place {artifacts : List Artifact} (h : (artifacts.map (·.place)).Nodup)
    {a : Artifact} (ha : a ∈ artifacts) : lastAt? a.place artifacts = some a := by
  have hsome : (lastAt? a.place artifacts).isSome = true :=
    List.find?_isSome.mpr ⟨a, List.mem_reverse.mpr ha, by simp⟩
  obtain ⟨b, hb⟩ := Option.isSome_iff_exists.mp hsome
  have hmem : b ∈ artifacts := List.mem_reverse.mp (List.mem_of_find?_eq_some hb)
  have hplace : b.place = a.place := by simpa using List.find?_some hb
  rw [hb, List.inj_on_of_nodup_map h hmem ha hplace]

/-- Without a slash, the place of an artifact is its language and its file name. -/
theorem Artifact.place_of_not_slash {a : Artifact} (h : '/' ∉ a.name) :
    a.place = [.name a.language.id, .name a.fileName] := by
  rw [place, shelfPath, Path.parts_join_name _ (isName_fileName h),
    Path.parts_of_isName a.language.isName_id]
  rfl

/-! ## 2. Deliveries -/

namespace Shelf

def places (s : Shelf) : List (List PathPart) := s.files.map (·.1)

theorem addAll_cons (s : Shelf) (a : Artifact) (artifacts : List Artifact) :
    s.addAll (a :: artifacts) = (s.add a).addAll artifacts := rfl

theorem lookup_add (s : Shelf) (a : Artifact) (place : List PathPart) :
    (s.add a).files.lookup place =
      if place = a.place then some a.contents else s.files.lookup place :=
  lookup_assignPair a.place place a.contents s.files

theorem mem_places_add (s : Shelf) (a : Artifact) (place : List PathPart) :
    place ∈ (s.add a).places ↔ place = a.place ∨ place ∈ s.places :=
  mem_keys_assignPair a.place place a.contents s.files

theorem nodup_places_add {s : Shelf} (h : s.places.Nodup) (a : Artifact) :
    (s.add a).places.Nodup :=
  nodup_keys_assignPair a.place a.contents h

/-- What is read at a place is what was delivered to it last, and otherwise what was there. -/
theorem lookup_addAll (place : List PathPart) (artifacts : List Artifact) :
    ∀ s : Shelf, (s.addAll artifacts).files.lookup place =
      ((lastAt? place artifacts).map (·.contents)).or (s.files.lookup place) := by
  induction artifacts with
  | nil => intro s; rfl
  | cons a artifacts ih =>
    intro s
    rw [addAll_cons, ih, lastAt?_cons, lookup_add]
    cases lastAt? place artifacts with
    | some last => rfl
    | none =>
      by_cases h : a.place = place
      · simp [h]
      · simp [h, Ne.symm h]

theorem lookup_empty_addAll (place : List PathPart) (artifacts : List Artifact) :
    (empty.addAll artifacts).files.lookup place = (lastAt? place artifacts).map (·.contents) := by
  rw [lookup_addAll]
  exact Option.or_none

theorem mem_places_addAll (place : List PathPart) (artifacts : List Artifact) :
    ∀ s : Shelf, place ∈ (s.addAll artifacts).places ↔
      place ∈ artifacts.map (·.place) ∨ place ∈ s.places := by
  induction artifacts with
  | nil => intro s; simp [addAll]
  | cons a artifacts ih =>
    intro s
    rw [addAll_cons, ih, mem_places_add, List.map_cons, List.mem_cons, or_left_comm, or_assoc]

theorem nodup_places_addAll (artifacts : List Artifact) :
    ∀ {s : Shelf}, s.places.Nodup → (s.addAll artifacts).places.Nodup := by
  induction artifacts with
  | nil => intro s h; exact h
  | cons a artifacts ih =>
    intro s h
    rw [addAll_cons]
    exact ih (nodup_places_add h a)

/-- The places taken are counted once each, however often they were delivered to. -/
theorem size_addAll (artifacts : List Artifact) :
    (empty.addAll artifacts).size = (artifacts.map (·.place)).dedup.length := by
  have hnodup : (empty.addAll artifacts).places.Nodup := nodup_places_addAll artifacts List.nodup_nil
  have hperm : (empty.addAll artifacts).places.Perm (artifacts.map (·.place)).dedup := by
    refine (List.perm_ext_iff_of_nodup hnodup (List.nodup_dedup _)).mpr fun place => ?_
    rw [mem_places_addAll, List.mem_dedup]
    exact or_iff_left List.not_mem_nil
  rw [← hperm.length_eq, places, List.length_map, size]

/-- No artifact is replaced exactly if no two have one place. -/
theorem size_addAll_eq_length_iff (artifacts : List Artifact) :
    (empty.addAll artifacts).size = artifacts.length ↔ (artifacts.map (·.place)).Nodup := by
  rw [size_addAll, ← List.dedup_eq_self]
  constructor
  · intro h
    exact (List.dedup_sublist _).eq_of_length (by rw [h, List.length_map])
  · intro h
    rw [h, List.length_map]

theorem get?_addAll_of_nodup {artifacts : List Artifact} (h : (artifacts.map (·.place)).Nodup)
    {a : Artifact} (ha : a ∈ artifacts) :
    (empty.addAll artifacts).get? a.language a.fileName = some a.contents := by
  have hlookup := lookup_addAll a.place artifacts empty
  rw [lastAt?_place h ha] at hlookup
  exact hlookup

end Shelf

/-! ## 3. The artifacts of a language -/

/-- Artifacts of one language with one file name have one place. -/
theorem nodup_fileNames_of_nodup_places {c : Catalog} {l : Language} {package : Option Text}
    (h : ((renderAll c l package).map (·.place)).Nodup) :
    ((renderAll c l package).map (·.fileName)).Nodup := by
  have hplaces : (renderAll c l package).map (·.place) =
      ((renderAll c l package).map (·.fileName)).map fun t => (shelfPath l t).parts := by
    rw [List.map_map]
    refine List.map_congr_left fun a ha => ?_
    rw [Artifact.place, language_of_mem_renderAll ha]
    rfl
  rw [hplaces] at h
  exact List.Nodup.of_map _ h

theorem nodup_places_iff_of_not_slash {c : Catalog} (h : ∀ attr ∈ c.attributes, '/' ∉ attr)
    (l : Language) (package : Option Text) :
    ((renderAll c l package).map (·.place)).Nodup ↔
      ((renderAll c l package).map (·.fileName)).Nodup := by
  have hplaces : (renderAll c l package).map (·.place) =
      ((renderAll c l package).map (·.fileName)).map fun t => [.name l.id, .name t] := by
    rw [List.map_map]
    refine List.map_congr_left fun a ha => ?_
    have hslash := (forall_not_slash_mem_name_iff c l package).mpr h a ha
    rw [Artifact.place_of_not_slash hslash, language_of_mem_renderAll ha]
    rfl
  rw [hplaces, List.nodup_map_iff]
  intro t u heq
  simpa using heq

/-- **When no artifact of a language is lost.** The file names are pairwise different exactly if the
camel case forms of the attributes are, and none of them is the name of the artifact with all
attributes. A shelf with the artifacts of the language has as many texts as there are artifacts
exactly if their places are pairwise different, and then each is read under its own file name. Without
a slash in any attribute, that is the same condition. -/
theorem renderAll_shelved_iff (c : Catalog) (l : Language) (package : Option Text) :
    let artifacts := renderAll c l package
    let shelf := Shelf.empty.addAll artifacts
    artifacts.length = c.width + 1 ∧
    ((artifacts.map (·.fileName)).Nodup ↔
      (c.attributes.map Text.upperCamel).Nodup ∧
        enumerationName ∉ c.attributes.map Text.upperCamel) ∧
    (shelf.size = c.width + 1 ↔ (artifacts.map (·.place)).Nodup) ∧
    ((artifacts.map (·.place)).Nodup →
      (artifacts.map (·.fileName)).Nodup ∧
        ∀ a ∈ artifacts, shelf.get? l a.fileName = some a.contents) ∧
    ((∀ attr ∈ c.attributes, '/' ∉ attr) →
      ((artifacts.map (·.place)).Nodup ↔ (artifacts.map (·.fileName)).Nodup)) := by
  intro artifacts shelf
  have hlength : artifacts.length = c.width + 1 := length_renderAll c l package
  refine ⟨hlength, nodup_fileNames_iff c l package, ?_, fun h => ⟨?_, fun a ha => ?_⟩,
    fun h => nodup_places_iff_of_not_slash h l package⟩
  · rw [← hlength]
    exact Shelf.size_addAll_eq_length_iff artifacts
  · exact nodup_fileNames_of_nodup_places h
  · have hget := Shelf.get?_addAll_of_nodup h ha
    rwa [language_of_mem_renderAll ha] at hget

/-- Attributes that differ and still take a place from each other: two with one camel case form, and one
with the name of the artifact with all attributes. Of four artifacts two are left. -/
theorem exists_artifact_lost :
    ∃ c first second third last,
      (Source.ofText inlineName "a|A|error enum\nx|y|z\n".toList).catalog {} = .ok c ∧
      renderAll c .go none = [first, second, third, last] ∧ c.attributes.Nodup ∧
      first.fileName = second.fileName ∧ third.fileName = last.fileName ∧
      (Shelf.empty.addAll [first, second, third, last]).size = 2 ∧
      (Shelf.empty.addAll [first, second, third, last]).get? .go first.fileName ≠
        some first.contents ∧
      (Shelf.empty.addAll [first, second, third, last]).get? .go third.fileName ≠
        some third.contents := by
  refine ⟨_, _, _, _, _, rfl, rfl, ?_, ?_, ?_, ?_, ?_, ?_⟩ <;> decide +kernel

end ErrorCatalog
