import Mathlib.Data.Finset.Card
import ErrorCatalog.Generate
import ErrorCatalog.Proofs.Delivery.Shelf

/-!
# `ErrorCatalog/Proofs/Delivery/Apart.lean` — languages do not meet on a shelf

A shelf keeps what came last to each place. Two artifacts of one language may have one place; two of
different languages never have. Their directories do not see to that: a name that starts with a slash
leaves the directory of its language, and `..` goes from one directory to another. It is the extension.
A file name is cut at its slashes only, so its end, the extension included, is the last part of the place
(`Artifact.exists_getLast?_place`); and what stands after the last dot tells the language.
-/

set_option autoImplicit false

namespace ErrorCatalog

/-! ## 1. Extensions -/

/-- What stands after the last of some separators is determined. -/
theorem eq_of_append_cons {c : Char} {s t x y : Text} (hx : c ∉ x) (hy : c ∉ y)
    (h : s ++ c :: x = t ++ c :: y) : x = y := by
  have hend : ∀ {s x : Text}, c ∉ x → (s ++ c :: x).reverse.takeWhile (· ≠ c) = x.reverse := by
    intro s x hx
    have hne : ∀ d ∈ x.reverse, decide (d ≠ c) = true := by
      intro d hd
      have : d ≠ c := fun heq => hx (heq ▸ List.mem_reverse.mp hd)
      simpa using this
    rw [List.reverse_append, List.reverse_cons, List.append_assoc,
      List.takeWhile_append_of_pos hne]
    simp
  rw [← List.reverse_inj, ← hend hx, h, hend hy]

namespace Language

theorem dot_not_mem_extension (l : Language) : '.' ∉ l.extension := by cases l <;> decide

theorem extension_injective {l m : Language} (h : l.extension = m.extension) : l = m := by
  revert h
  cases l <;> cases m <;> decide

/-- A file name ends in the extension of one language only. -/
theorem eq_of_append_extension {l m : Language} {s t : Text}
    (h : s ++ '.' :: l.extension = t ++ '.' :: m.extension) : l = m :=
  extension_injective (eq_of_append_cons l.dot_not_mem_extension m.dot_not_mem_extension h)

end Language

/-! ## 2. Places -/

/-- A text has no slash, or a last one. -/
theorem slash_not_mem_or_exists_last (t : Text) :
    '/' ∉ t ∨ ∃ dir base, '/' ∉ base ∧ t = dir ++ '/' :: base := by
  induction t with
  | nil => exact Or.inl List.not_mem_nil
  | cons c rest ih =>
    rcases ih with hrest | ⟨dir, base, hbase, rfl⟩
    · by_cases hc : c = '/'
      · exact Or.inr ⟨[], rest, hrest, by rw [hc, List.nil_append]⟩
      · exact Or.inl (by simp [Ne.symm hc, hrest])
    · exact Or.inr ⟨c :: dir, base, hbase, rfl⟩

namespace Artifact

/-- **The last part of a place is a name with the extension of the language.** -/
theorem exists_getLast?_place (a : Artifact) :
    ∃ base, a.place.getLast? = some (.name (base ++ '.' :: a.language.extension)) := by
  rcases slash_not_mem_or_exists_last a.name with hslash | ⟨dir, base, hbase, hname⟩
  · rw [place_of_not_slash hslash]
    exact ⟨a.name, rfl⟩
  · have hfile : a.fileName = dir ++ '/' :: (base ++ '.' :: a.language.extension) := by
      rw [fileName, hname, List.append_assoc, List.cons_append]
    have hisName : IsName (base ++ '.' :: a.language.extension) :=
      isName_fileName (a := { a with name := base }) hbase
    refine ⟨base, ?_⟩
    rw [place, shelfPath, hfile]
    exact Path.getLast?_parts_join _ hisName dir

/-- **Artifacts at one place have one language.** -/
theorem language_eq_of_place_eq {a b : Artifact} (h : a.place = b.place) :
    a.language = b.language := by
  obtain ⟨s, hs⟩ := a.exists_getLast?_place
  obtain ⟨t, ht⟩ := b.exists_getLast?_place
  rw [h, ht] at hs
  exact Language.eq_of_append_extension (PathPart.name.inj (Option.some.inj hs)).symm

end Artifact

/-! ## 3. A shelf with several languages -/

namespace Shelf

theorem get?_addAll_eq_some_iff (artifacts : List Artifact) (l : Language) (fileName text : Text) :
    (empty.addAll artifacts).get? l fileName = some text ↔
      ∃ before a later, artifacts = before ++ a :: later ∧ a.contents = text ∧
        a.place = (shelfPath l fileName).parts ∧
        ∀ b ∈ later, b.place ≠ (shelfPath l fileName).parts := by
  rw [get?, lookup_empty_addAll, Option.map_eq_some_iff]
  constructor
  · rintro ⟨a, hlast, htext⟩
    obtain ⟨hplace, before, later, hsplit, hlater⟩ := lastAt?_eq_some_iff.mp hlast
    exact ⟨before, a, later, hsplit, htext, hplace, hlater⟩
  · rintro ⟨before, a, later, hsplit, htext, hplace, hlater⟩
    exact ⟨a, lastAt?_eq_some_iff.mpr ⟨hplace, before, later, hsplit, hlater⟩, htext⟩

theorem get?_addAll_eq_none_iff (artifacts : List Artifact) (l : Language) (fileName : Text) :
    (empty.addAll artifacts).get? l fileName = none ↔
      ∀ a ∈ artifacts, a.place ≠ (shelfPath l fileName).parts := by
  rw [get?, lookup_empty_addAll, Option.map_eq_none_iff, lastAt?_eq_none_iff]

/-- What is read at the place of an artifact stays when artifacts of another language come. -/
theorem get?_addAll_of_language_ne (s : Shelf) {a : Artifact} {more : List Artifact}
    (h : ∀ b ∈ more, b.language ≠ a.language) :
    (s.addAll more).get? a.language a.fileName = s.get? a.language a.fileName := by
  have hnone : lastAt? a.place more = none :=
    lastAt?_eq_none_iff.mpr fun b hb heq => h b hb (Artifact.language_eq_of_place_eq heq)
  have hlookup := lookup_addAll a.place more s
  rw [hnone] at hlookup
  exact hlookup

/-- **A shelf keeps what came last to each place, and languages keep out of each other's way.** What is
read under a language and a file name is what came last of the artifacts with this place, and nothing if
there are none. The places taken are the different places of the artifacts. Delivery always succeeds, and
what was delivered can be read at once. Artifacts of two languages never have one place, so what is read
under the file name of one stays the same whatever comes of other languages. -/
theorem addAll_keeps_languages_apart (artifacts : List Artifact) :
    let shelf := empty.addAll artifacts
    (∀ l fileName text, shelf.get? l fileName = some text ↔
      ∃ before a later, artifacts = before ++ a :: later ∧ a.contents = text ∧
        a.place = (shelfPath l fileName).parts ∧
        ∀ b ∈ later, b.place ≠ (shelfPath l fileName).parts) ∧
    (∀ l fileName, shelf.get? l fileName = none ↔
      ∀ a ∈ artifacts, a.place ≠ (shelfPath l fileName).parts) ∧
    shelf.size = (artifacts.map (·.place)).toFinset.card ∧
    (∀ spans l logger clock input w,
      (deliverRendered spans none [(l, artifacts)]).run logger clock input w =
        (.ok [⟨l, artifacts.map (·.shelved)⟩], w)) ∧
    (∀ a, (shelf.add a).get? a.language a.fileName = some a.contents) ∧
    (∀ a b : Artifact, a.language ≠ b.language → a.place ≠ b.place) ∧
    (∀ (a : Artifact) (more : List Artifact), (∀ b ∈ more, b.language ≠ a.language) →
      (shelf.addAll more).get? a.language a.fileName = shelf.get? a.language a.fileName) := by
  intro shelf
  refine ⟨get?_addAll_eq_some_iff artifacts, get?_addAll_eq_none_iff artifacts, ?_,
    fun _ _ _ _ _ _ => rfl, fun a => ?_, fun a b => mt Artifact.language_eq_of_place_eq,
    fun a more => get?_addAll_of_language_ne shelf⟩
  · rw [size_addAll, List.card_toFinset]
  · have hlookup := lookup_add shelf a a.place
    rwa [if_pos rfl] at hlookup

/-- Names that start at the root, that lead into the directory of another language, and that spell one
path in two ways. Only the last two share a place. -/
theorem addAll_keeps_languages_apart_of_odd_names :
    let artifact (name : String) (l : Language) (contents : String) : Artifact :=
      ⟨name.toList, l, .enumeration, contents.toList⟩
    let artifacts := [artifact "/A" .go "root", artifact "../go/A" .java "beside",
      artifact "A" .kotlin "plain", artifact "a/./b" .kotlin "first", artifact "a//b" .kotlin "second"]
    let shelf := empty.addAll artifacts
    shelf.size = 4 ∧ shelf.get? .python "/A.go".toList = some "root".toList ∧
    shelf.get? .kotlin "a/b.kt".toList = some "second".toList ∧
    shelf.get? .go "A.go".toList = none ∧
    (∀ contents, (artifact "../go/A" .java contents).place ≠ (artifact "A" .go contents).place) ∧
    (shelf.add (artifact "A" .go "new")).get? .java "../go/A.java".toList = some "beside".toList := by
  intro artifact artifacts shelf
  obtain ⟨hsome, hnone, -, -, -, hplaces, hmore⟩ := addAll_keeps_languages_apart artifacts
  have hbeside : shelf.get? .java "../go/A.java".toList = some "beside".toList :=
    (hsome _ _ _).mpr ⟨[artifact "/A" .go "root"], artifact "../go/A" .java "beside",
      [artifact "A" .kotlin "plain", artifact "a/./b" .kotlin "first",
        artifact "a//b" .kotlin "second"], rfl, rfl, by decide, by decide⟩
  have hne : Language.java ≠ Language.go := by decide
  refine ⟨by decide +kernel, ?_, ?_, ?_, fun contents => hplaces _ _ hne, ?_⟩
  · exact (hsome _ _ _).mpr ⟨[], artifact "/A" .go "root", artifacts.tail, rfl, rfl, by decide,
      by decide +kernel⟩
  · exact (hsome _ _ _).mpr ⟨artifacts.take 4, artifact "a//b" .kotlin "second", [], rfl, rfl,
      by decide, by simp⟩
  · exact (hnone _ _).mpr (by decide +kernel)
  · rw [← hbeside]
    exact hmore (artifact "../go/A" .java "beside") [artifact "A" .go "new"] (by decide)

end Shelf

end ErrorCatalog
