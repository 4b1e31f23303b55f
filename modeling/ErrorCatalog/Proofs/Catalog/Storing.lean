import Mathlib.Data.Finset.Card
import Mathlib.Data.List.Induction
import ErrorCatalog.Catalog.Basic

/-!
# `ErrorCatalog/Proofs/Catalog/Storing.lean` — catalogs that are made by storing

A catalog starts empty, and the one way to change it is to store values under a name. So the catalogs
there can be are those of `Catalog.ofEntries`: any names with any values, stored in any order.

The order and the map are two containers, and a `Catalog` as such could have a name in one of them
only. None that is made by storing has (`Catalog.matched_ofEntries`): one store keeps the containers
`Matched`, and from that any number do. What reads both containers may then read either.

So what is read after storing can be said by the entries alone, and `ofEntries_remembers_order` says it:
the names are those of the entries by first use, and under each is what was stored last. Reading is a
function of the catalog and leaves it as it was, so it makes no difference when in between it is read.
-/

set_option autoImplicit false

namespace ErrorCatalog

/-! ## 1. Repetitions dropped -/

section EraseDups

variable {α : Type} [DecidableEq α]

/-- One more item comes to the end, unless it was there. -/
theorem eraseDups_concat (items : List α) (item : α) :
    (items ++ [item]).eraseDups =
      if item ∈ items then items.eraseDups else items.eraseDups ++ [item] := by
  rw [List.eraseDups_append]
  by_cases h : item ∈ items
  · have hnone : [item].removeAll items = [] := by simp [List.removeAll, h]
    rw [hnone, if_pos h]
    exact List.append_nil _
  · have hone : [item].removeAll items = [item] := by simp [List.removeAll, h]
    rw [hone, if_neg h]
    rfl

theorem nodup_eraseDups (items : List α) : items.eraseDups.Nodup := by
  induction items using List.reverseRecOn with
  | nil => exact List.nodup_nil
  | append_singleton items item ih =>
    rw [eraseDups_concat]
    split
    · exact ih
    · rename_i h
      have hnot : item ∉ items.eraseDups := mt List.mem_eraseDups.mp h
      rw [← List.concat_eq_append]
      exact ih.concat hnot

end EraseDups

namespace Catalog

/-! ## 2. Storing one after the other -/

def storeAll (c : Catalog) (entries : List (RecordName × Values)) : Catalog :=
  entries.foldl (fun c entry => c.insert entry.1 entry.2) c

/-- The catalog with the given attributes after the entries were stored in it. -/
def ofEntries (attributes : List Text) (entries : List (RecordName × Values)) : Catalog :=
  (empty attributes).storeAll entries

theorem storeAll_cons (c : Catalog) (entry : RecordName × Values)
    (entries : List (RecordName × Values)) :
    c.storeAll (entry :: entries) = (c.insert entry.1 entry.2).storeAll entries := rfl

theorem ofEntries_concat (attributes : List Text) (entries : List (RecordName × Values))
    (entry : RecordName × Values) :
    ofEntries attributes (entries ++ [entry]) =
      (ofEntries attributes entries).insert entry.1 entry.2 := by
  simp [ofEntries, storeAll]

@[simp] theorem attributes_storeAll (c : Catalog) (entries : List (RecordName × Values)) :
    (c.storeAll entries).attributes = c.attributes := by
  induction entries generalizing c with
  | nil => rfl
  | cons entry entries ih => rw [storeAll_cons, ih, attributes_insert]

@[simp] theorem attributes_ofEntries (attributes : List Text)
    (entries : List (RecordName × Values)) : (ofEntries attributes entries).attributes = attributes :=
  attributes_storeAll _ entries

/-! ## 3. The two containers -/

/-- Whether the names in the order are those with values. -/
def Matched (c : Catalog) : Prop := ∀ name, name ∈ c.order ↔ (c.stored? name).isSome = true

theorem matched_empty (attributes : List Text) : (empty attributes).Matched := fun name => by
  simp [empty, stored?]

theorem Matched.insert {c : Catalog} (h : c.Matched) (name : RecordName) (values : Values) :
    (c.insert name values).Matched := by
  intro other
  rw [order_insert, stored?_insert]
  by_cases hother : other = name
  · subst hother
    -- The name is in the order afterwards, whether it was new or not.
    rw [if_pos rfl, Option.isSome_some]
    refine iff_of_true ?_ rfl
    split
    · rename_i hstored
      exact (h other).mpr hstored
    · exact List.mem_append_right _ (List.mem_singleton_self other)
  · rw [if_neg hother, ← h other]
    split
    · exact Iff.rfl
    · simp [hother]

theorem Matched.storeAll {c : Catalog} (h : c.Matched) (entries : List (RecordName × Values)) :
    (c.storeAll entries).Matched := by
  induction entries generalizing c with
  | nil => exact h
  | cons entry entries ih => exact ih (h.insert entry.1 entry.2)

/-- **A catalog that is made by storing** has values for the names in its order and no others. -/
theorem matched_ofEntries (attributes : List Text) (entries : List (RecordName × Values)) :
    (ofEntries attributes entries).Matched :=
  (matched_empty attributes).storeAll entries

/-- No name of the order is dropped from the records. -/
theorem Matched.map_name_records {c : Catalog} (h : c.Matched) :
    c.records.map (·.name) = c.names := by
  have hsome : ∀ name ∈ c.order,
      ((c.stored? name).map (Record.mk name)).map (·.name) = some name := by
    intro name hname
    obtain ⟨values, hvalues⟩ := Option.isSome_iff_exists.mp ((h name).mp hname)
    rw [hvalues]
    rfl
  rw [records, List.map_filterMap, names]
  exact (List.filterMap_congr hsome).trans List.filterMap_some

/-- There is a name exactly if a column has an entry. -/
theorem Matched.isEmpty_eq {c : Catalog} (h : c.Matched) (index : Nat) :
    c.isEmpty = (c.column index).isEmpty := by
  rw [column, List.isEmpty_map, ← List.isEmpty_map, h.map_name_records]
  rfl

theorem Matched.length_records {c : Catalog} (h : c.Matched) : c.records.length = c.size := by
  have hnames := congrArg List.length h.map_name_records
  rwa [List.length_map] at hnames

/-- The keys of the map are the names with values. -/
theorem mem_keys_iff (c : Catalog) (name : RecordName) :
    name ∈ c.rows.map (·.1) ↔ (c.stored? name).isSome = true := by
  rw [stored?, List.lookup_isSome_iff, List.mem_map]
  refine exists_congr fun p => and_congr_right fun _ => ?_
  rw [beq_iff_eq, eq_comm]

theorem nodup_keys_ofEntries (attributes : List Text) (entries : List (RecordName × Values)) :
    ((ofEntries attributes entries).rows.map (·.1)).Nodup := by
  induction entries using List.reverseRecOn with
  | nil => exact List.nodup_nil
  | append_singleton entries entry ih =>
    rw [ofEntries_concat]
    exact nodup_keys_assignPair entry.1 entry.2 ih

/-! ## 4. What is read -/

theorem contains_eq (c : Catalog) (t : Text) : c.contains t = (c.get? t).isSome := by
  rw [contains, get?, Option.isSome_map, Bool.eq_iff_iff, List.any_eq_true, List.find?_isSome]

theorem get?_eq_none {c : Catalog} {t : Text} (h : ∀ name : RecordName, name.text ≠ t) :
    c.get? t = none := by
  rw [Option.eq_none_iff_forall_ne_some]
  intro values hvalues
  obtain ⟨name, hname, -⟩ := exists_stored?_of_get? hvalues
  exact h name hname

/-- Storing changes what is read under its own name, and nothing else. -/
theorem get?_insert (c : Catalog) (name : RecordName) (values : Values) (t : Text) :
    (c.insert name values).get? t = if t = name.text then some values else c.get? t := by
  by_cases hcanonical : ∃ other : RecordName, other.text = t
  · obtain ⟨other, rfl⟩ := hcanonical
    have hiff : other.text = name.text ↔ other = name := ⟨RecordName.ext_text, congrArg _⟩
    rw [get?_text, get?_text, stored?_insert]
    simp only [hiff]
  · have hnone : ∀ other : RecordName, other.text ≠ t := fun other h => hcanonical ⟨other, h⟩
    rw [get?_eq_none hnone, get?_eq_none hnone, if_neg (hnone name).symm]

/-- The values that were stored last under the name with the given text. -/
def lastStored? (t : Text) (entries : List (RecordName × Values)) : Option Values :=
  (entries.reverse.find? (·.1.text = t)).map (·.2)

theorem lastStored?_concat (t : Text) (entries : List (RecordName × Values))
    (entry : RecordName × Values) :
    lastStored? t (entries ++ [entry]) =
      if t = entry.1.text then some entry.2 else lastStored? t entries := by
  by_cases h : entry.1.text = t
  · simp [lastStored?, h]
  · simp [lastStored?, h, Ne.symm h]

theorem get?_ofEntries (attributes : List Text) (entries : List (RecordName × Values)) (t : Text) :
    (ofEntries attributes entries).get? t = lastStored? t entries := by
  induction entries using List.reverseRecOn with
  | nil => rfl
  | append_singleton entries entry ih =>
    rw [ofEntries_concat, get?_insert, lastStored?_concat, ih]

/-- A name comes to the end of the order when it is stored under for the first time. -/
theorem order_insert_of_matched {c : Catalog} (h : c.Matched) (name : RecordName) (values : Values) :
    (c.insert name values).order = if name ∈ c.order then c.order else c.order ++ [name] := by
  rw [order_insert]
  simp only [h name]

theorem order_ofEntries (attributes : List Text) (entries : List (RecordName × Values)) :
    (ofEntries attributes entries).order = (entries.map (·.1)).eraseDups := by
  induction entries using List.reverseRecOn with
  | nil => rfl
  | append_singleton entries entry ih =>
    rw [ofEntries_concat, order_insert_of_matched (matched_ofEntries attributes entries), ih,
      List.map_append, List.map_singleton, eraseDups_concat]
    simp only [List.mem_eraseDups]

/-- **A catalog is a map that remembers in which order its names first came in.** The order and the map
have each name once, and they have the same names. They are those stored under, by first use, and under
each is what was stored last. Every name has its record and its entry in a column. Storing once more
gives back what was stored last under the name, changes what is read under it and under no other, and
moves no name. The attributes stay as they are. -/
theorem ofEntries_remembers_order (attributes : List Text)
    (entries : List (RecordName × Values)) :
    let c := ofEntries attributes entries
    c.order.Nodup ∧ (c.rows.map (·.1)).Nodup ∧ (∀ name, name ∈ c.order ↔ name ∈ c.rows.map (·.1)) ∧
    c.attributes = attributes ∧
    c.names = (entries.map (·.1)).eraseDups ∧
    (∀ t, c.get? t = lastStored? t entries ∧ c.contains t = (c.get? t).isSome) ∧
    c.size = (entries.map (·.1)).toFinset.card ∧
    c.records.map (·.name) = c.names ∧ c.records.length = c.size ∧
    (∀ index, (c.column index).length = c.size) ∧
    ∀ name values,
      (c.store name values).1 = lastStored? name.text entries ∧
      (∀ t, (c.store name values).2.get? t = if t = name.text then some values else c.get? t) ∧
      (c.store name values).2.names = (if name ∈ c.names then c.names else c.names ++ [name]) ∧
      (c.store name values).2.attributes = attributes := by
  intro c
  have hmatched : c.Matched := matched_ofEntries attributes entries
  have horder : c.order = (entries.map (·.1)).eraseDups := order_ofEntries attributes entries
  have hnodup : c.order.Nodup := by
    rw [horder]
    exact nodup_eraseDups _
  have hsize : c.size = (entries.map (·.1)).toFinset.card := by
    have hset : c.order.toFinset = (entries.map (·.1)).toFinset := by
      ext name
      rw [List.mem_toFinset, List.mem_toFinset, horder, List.mem_eraseDups]
    rw [← hset, List.toFinset_card_of_nodup hnodup]
    rfl
  refine ⟨hnodup, nodup_keys_ofEntries attributes entries, fun name => ?_,
    attributes_ofEntries attributes entries, horder, fun t => ?_, hsize, hmatched.map_name_records,
    hmatched.length_records, fun index => ?_, fun name values => ?_⟩
  · rw [mem_keys_iff]
    exact hmatched name
  · exact ⟨get?_ofEntries attributes entries t, c.contains_eq t⟩
  · rw [column, List.length_map, hmatched.length_records]
  · refine ⟨?_, c.get?_insert name values, order_insert_of_matched hmatched name values,
      attributes_ofEntries attributes entries⟩
    rw [← get?_ofEntries attributes entries, get?_text]
    rfl

end Catalog

end ErrorCatalog
