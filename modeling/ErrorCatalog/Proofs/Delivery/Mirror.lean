import ErrorCatalog.Proofs.Delivery.Shelf
import ErrorCatalog.Proofs.Run.Written

/-!
# `ErrorCatalog/Proofs/Delivery/Mirror.lean` — a directory holds what a shelf would

The two kinds of destination are told the same things in the same order, and both keep the last text per
place. A shelf compares places by the parts of paths and a tree by locations. Without a slash in its name,
an artifact has one place in both senses: its language and its file name, below the root
(`Artifact.destination_eq_iff`). So what a delivery leaves below the root can be read off the shelf, at
any root and whatever was there before (`Delivers.node?_of_lookup`). Where nothing was there, the files
are those on the shelf and no others.
-/

set_option autoImplicit false

namespace ErrorCatalog

variable {root : Path} {home : Location} {a : Artifact} {t u : FileTree} {artifacts : List Artifact}
  {names : Location}

/-! ## 1. Places and locations -/

theorem Artifact.destination_of_not_slash (h : '/' ∉ a.name) (root : Path) (home : Location) :
    a.destination root home = root.locationFrom home ++ [a.language.id, a.fileName] := by
  rw [destination, pathBelow, Path.locationFrom_join_name _ _ (isName_fileName h),
    Path.locationFrom_join_name _ _ a.language.isName_id, List.append_assoc]
  rfl

/-- Without a slash, two places are the same in a tree exactly if they are on a shelf. -/
theorem Artifact.destination_eq_iff (h : '/' ∉ a.name) :
    a.destination root home = root.locationFrom home ++ names ↔
      a.place = names.map PathPart.name := by
  have hinjective : Function.Injective PathPart.name := fun _ _ => PathPart.name.inj
  rw [destination_of_not_slash h, place_of_not_slash h, List.append_cancel_left_eq]
  exact (List.map_injective_iff.mpr hinjective).eq_iff.symm

/-! ## 2. Deliveries to a directory and to a shelf -/

namespace Delivers

variable (hslash : ∀ a ∈ artifacts, '/' ∉ a.name) (h : Delivers root t artifacts u)
include hslash h

/-- Below the root, at the places of the shelf is what is on the shelf. -/
theorem node?_of_lookup {text : Text} (hlookup : (Shelf.empty.addAll artifacts).files.lookup
    (names.map PathPart.name) = some text) :
    u.node? (root.locationFrom t.home ++ names) =
      some (.overwritten (Text.encode text) (t.node? (root.locationFrom t.home ++ names))) := by
  rw [Shelf.lookup_empty_addAll] at hlookup
  obtain ⟨a, hlast, rfl⟩ := Option.map_eq_some_iff.mp hlookup
  obtain ⟨hplace, before, later, rfl, hlater⟩ := lastAt?_eq_some_iff.mp hlast
  refine h.node?_of_last ?_ fun b hb => ?_
  · exact (Artifact.destination_eq_iff (hslash a (by simp))).mpr hplace
  · exact mt (Artifact.destination_eq_iff (hslash b (by simp [hb]))).mp (hlater b hb)

/-- Elsewhere is what was there, but for new directories. -/
theorem node?_of_lookup_none (hlookup : (Shelf.empty.addAll artifacts).files.lookup
    (names.map PathPart.name) = none) :
    u.node? (root.locationFrom t.home ++ names) = t.node? (root.locationFrom t.home ++ names) ∨
      t.node? (root.locationFrom t.home ++ names) = none ∧
        u.node? (root.locationFrom t.home ++ names) = some .directory := by
  rw [Shelf.lookup_empty_addAll, Option.map_eq_none_iff] at hlookup
  have hnone := lastAt?_eq_none_iff.mp hlookup
  exact h.node?_of_forall_ne fun a ha =>
    mt (Artifact.destination_eq_iff (hslash a ha)).mp (hnone a ha)

end Delivers

/-- Whether nothing is below the place of a path: it is absent, or an empty directory. The place of `x/..`
is around `x`, whether `x` is there or not. -/
def FileTree.HasNothingBelow (t : FileTree) (p : Path) : Prop :=
  ∀ names, names ≠ [] → t.node? (p.locationFrom t.home ++ names) = none

/-- **A directory holds what a shelf would.** Deliver artifacts without a slash in their names below a
root with nothing below it. If that succeeds, the files below the root are those on a shelf that the same
artifacts were delivered to, with the same contents; each is where the root and its place on the shelf
lead; and the two lists of what was delivered differ in the locations only. -/
theorem deliverAll_mirrors_shelf {logger : Script.Logger} (hlog : logger.file = none) (clock : Clock)
    (input : ByteArray) (spans : List Span) (w : Script.World)
    (hslash : ∀ a ∈ artifacts, '/' ∉ a.name) (hroot : w.tree.HasNothingBelow root)
    {ds : List Delivered}
    (hok : ((deliverAll spans root artifacts).run logger clock input w).1 = .ok ds) :
    let after := ((deliverAll spans root artifacts).run logger clock input w).2.tree
    let shelf := Shelf.empty.addAll artifacts
    (∀ names bytes, names ≠ [] →
      (after.node? (root.locationFrom w.tree.home ++ names) = some (.file bytes) ↔
        ∃ text, shelf.files.lookup (names.map PathPart.name) = some text ∧
          bytes = Text.encode text)) ∧
    (∀ place ∈ shelf.places, ∃ names, names ≠ [] ∧ place = names.map PathPart.name) ∧
    (∀ a ∈ artifacts, after.resolve? (root.join (shelfPath a.language a.fileName).spelling) =
      some (root.locationFrom w.tree.home ++ [a.language.id, a.fileName])) ∧
    List.Forall₂ (Delivered.Previews root) (artifacts.map (·.shelved)) ds := by
  intro after shelf
  have hdelivers : Delivers root w.tree artifacts after := by
    obtain ⟨hresult, htree⟩ :=
      Script.run_eq_effect input hlog clock (deliverAll spans root artifacts) w
    rw [hok] at hresult
    exact delivers_of_effect spans input (Prod.ext hresult.symm htree.symm)
  refine ⟨fun names bytes hne => ?_, fun place hplace => ?_, fun a ha => ?_, ?_⟩
  · have habsent := hroot names hne
    cases hlookup : shelf.files.lookup (names.map PathPart.name) with
    | some text =>
      have hnode := hdelivers.node?_of_lookup hslash hlookup
      rw [habsent] at hnode
      rw [hnode]
      simp [Node.overwritten, eq_comm]
    | none =>
      have hnode := hdelivers.node?_of_lookup_none hslash hlookup
      rw [habsent] at hnode
      rcases hnode with hnode | ⟨-, hnode⟩ <;> simp [hnode]
  · rcases (Shelf.mem_places_addAll place artifacts .empty).mp hplace with hmem | hmem
    · obtain ⟨a, ha, rfl⟩ := List.mem_map.mp hmem
      exact ⟨[a.language.id, a.fileName], by simp, Artifact.place_of_not_slash (hslash a ha)⟩
    · exact absurd hmem List.not_mem_nil
  · rw [← a.pathBelow_eq root, (hdelivers.holds ha).accepts.resolve?,
      Artifact.destination_of_not_slash (hslash a ha)]
  · rw [of_fst_run_deliverAll logger clock input hok, List.forall₂_map_left_iff,
      List.forall₂_map_right_iff, List.forall₂_same]
    exact fun a _ => a.previews_delivered root

/-- Names that are empty, a dot or used twice, and two languages, in an empty directory. -/
theorem deliverAll_mirrors_shelf_of_odd_names :
    let artifact (name : String) (l : Language) (contents : String) : Artifact :=
      ⟨name.toList, l, .enumeration, contents.toList⟩
    let artifacts := [artifact "A" .go "first", artifact "" .go "empty", artifact "A" .java "java",
      artifact "." .go "dot", artifact "A" .go "second"]
    let t : FileTree := ⟨[(["out".toList], .directory)], []⟩
    let run := (deliverAll [] (.ofString "out") artifacts).run .silent ⟨[], 0, [], []⟩ .empty ⟨t, []⟩
    Script.Logger.silent.file = none ∧ (∀ a ∈ artifacts, '/' ∉ a.name) ∧
    t.HasNothingBelow (.ofString "out") ∧ ∃ ds, run.1 = .ok ds ∧
      run.2.tree.node? ["out".toList, "go".toList, "A.go".toList] =
        some (.file (Text.encode "second".toList)) ∧
      run.2.tree.node? ["out".toList, "go".toList, ".go".toList] =
        some (.file (Text.encode "empty".toList)) ∧
      run.2.tree.node? ["out".toList, "go".toList, "..go".toList] =
        some (.file (Text.encode "dot".toList)) ∧
      (∀ bytes, run.2.tree.node? ["out".toList, "A.go".toList] ≠ some (.file bytes)) ∧
      ds.map (·.bytes) = [5, 5, 4, 3, 6] := by
  intro artifact artifacts t run
  have hsilent : Script.Logger.silent.file = none := rfl
  have hplace : (Path.ofString "out").locationFrom t.home = ["out".toList] := by decide
  have hslash : ∀ a ∈ artifacts, '/' ∉ a.name := by decide
  have hroot : t.HasNothingBelow (.ofString "out") := by
    intro names hne
    obtain ⟨name, rest, rfl⟩ := List.exists_cons_of_ne_nil hne
    rw [hplace, FileTree.node?, if_neg (by simp)]
    simp [t, List.lookup_cons]
  have hbytes : run.1.toOption.map (·.map (·.bytes)) = some [5, 5, 4, 3, 6] := by decide +kernel
  have hrun : (deliverAll [] (.ofString "out") artifacts).run .silent ⟨[], 0, [], []⟩ .empty ⟨t, []⟩ =
    run := rfl
  clear_value run
  cases hok : run.1 with
  | error e =>
    rw [hok] at hbytes
    cases hbytes
  | ok ds =>
    rw [hok] at hbytes
    rw [← hrun] at hok
    obtain ⟨hfiles, -⟩ := deliverAll_mirrors_shelf hsilent ⟨[], 0, [], []⟩ .empty [] ⟨t, []⟩ hslash
      hroot hok
    rw [hrun] at hfiles
    simp only [hplace] at hfiles
    refine ⟨hsilent, hslash, hroot, ds, rfl, ?_, ?_, ?_, fun bytes h => ?_, Option.some.inj hbytes⟩
    · exact (hfiles ["go".toList, "A.go".toList] _ (by simp)).mpr ⟨_, by decide +kernel, rfl⟩
    · exact (hfiles ["go".toList, ".go".toList] _ (by simp)).mpr ⟨_, by decide +kernel, rfl⟩
    · exact (hfiles ["go".toList, "..go".toList] _ (by simp)).mpr ⟨_, by decide +kernel, rfl⟩
    · obtain ⟨text, hlookup, -⟩ := (hfiles ["A.go".toList] bytes (by simp)).mp h
      have hnone : (Shelf.empty.addAll artifacts).files.lookup
          (["A.go".toList].map PathPart.name) = none := by decide +kernel
      rw [hnone] at hlookup
      cases hlookup

end ErrorCatalog
