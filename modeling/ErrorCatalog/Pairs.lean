/-!
# `ErrorCatalog/Pairs.lean` — lists of pairs as maps

Where a map is small and its order does not matter, it is a list of pairs: `List.lookup` reads it and
`assignPair` writes it. `lookup_assignPair` says what is read afterwards: under the assigned key its
value, under every other what was there. Which keys there are is in `mem_keys_assignPair`; each is
there once (`nodup_keys_assignPair`), so the length of the list counts them.

A key keeps its position, so assignments can be compared as lists, not only by what is read: see
`assignPair_assignPair`, `assignPair_comm` and `assignPair_of_lookup`.
-/

set_option autoImplicit false

namespace ErrorCatalog

variable {α β : Type} [DecidableEq α]

/-- Gives `key` the value in place, or adds it at the end. -/
def assignPair (key : α) (value : β) : List (α × β) → List (α × β)
  | [] => [(key, value)]
  | p :: rest => if p.1 = key then (key, value) :: rest else p :: assignPair key value rest

theorem lookup_assignPair [BEq α] [LawfulBEq α] (key other : α) (value : β)
    (pairs : List (α × β)) :
    (assignPair key value pairs).lookup other =
      if other = key then some value else pairs.lookup other := by
  induction pairs with
  | nil =>
    by_cases h : other = key
    · simp [assignPair, h]
    · simp [assignPair, h, List.lookup_cons, beq_false_of_ne h]
  | cons p rest ih =>
    obtain ⟨k, v⟩ := p
    by_cases hk : k = key
    · subst hk
      by_cases h : other = k
      · simp [assignPair, h]
      · simp [assignPair, h, List.lookup_cons, beq_false_of_ne h]
    · by_cases h : other = k
      · subst h
        simp [assignPair, hk]
      · simp [assignPair, hk, List.lookup_cons, beq_false_of_ne h, ih]

/-- Assigning adds its key, and no other. -/
theorem mem_keys_assignPair (key other : α) (value : β) (pairs : List (α × β)) :
    other ∈ (assignPair key value pairs).map (·.1) ↔ other = key ∨ other ∈ pairs.map (·.1) := by
  induction pairs with
  | nil => simp [assignPair]
  | cons p rest ih =>
    by_cases h : p.1 = key
    · subst h
      simp [assignPair]
    · rw [assignPair, if_neg h, List.map_cons, List.mem_cons, ih, List.map_cons, List.mem_cons,
        or_left_comm]

/-- No key is there twice. -/
theorem nodup_keys_assignPair (key : α) (value : β) {pairs : List (α × β)}
    (h : (pairs.map (·.1)).Nodup) : ((assignPair key value pairs).map (·.1)).Nodup := by
  induction pairs with
  | nil => simp [assignPair]
  | cons p rest ih =>
    obtain ⟨hnot, hrest⟩ := List.nodup_cons.mp h
    by_cases hp : p.1 = key
    · subst hp
      rw [assignPair, if_pos rfl]
      exact h
    · rw [assignPair, if_neg hp]
      refine List.nodup_cons.mpr ⟨fun hmem => ?_, ih hrest⟩
      rcases (mem_keys_assignPair key p.1 value rest).mp hmem with heq | hmem
      · exact hp heq
      · exact hnot hmem

/-- Of two assignments to one key the later one counts. -/
theorem assignPair_assignPair (key : α) (earlier later : β) (pairs : List (α × β)) :
    assignPair key later (assignPair key earlier pairs) = assignPair key later pairs := by
  induction pairs with
  | nil => simp [assignPair]
  | cons p rest ih =>
    by_cases h : p.1 = key
    · simp [assignPair, h]
    · simp [assignPair, h, ih]

/-- Assignments to two keys can change places if one of them is there, since it stays where it is. -/
theorem assignPair_comm {key other : α} (hne : key ≠ other) (value otherValue : β)
    {pairs : List (α × β)} (h : key ∈ pairs.map (·.1)) :
    assignPair other otherValue (assignPair key value pairs) =
      assignPair key value (assignPair other otherValue pairs) := by
  induction pairs with
  | nil => exact absurd h List.not_mem_nil
  | cons p rest ih =>
    by_cases hkey : p.1 = key
    · simp [assignPair, hkey, hne]
    · by_cases hother : p.1 = other
      · simp [assignPair, hother, hne.symm]
      · have hrest : key ∈ rest.map (·.1) := (List.mem_cons.mp h).resolve_left (Ne.symm hkey)
        simp [assignPair, hkey, hother, ih hrest]

/-- Assigning what is there changes nothing. -/
theorem assignPair_of_lookup [BEq α] [LawfulBEq α] {key : α} {value : β} {pairs : List (α × β)}
    (h : pairs.lookup key = some value) : assignPair key value pairs = pairs := by
  induction pairs with
  | nil => cases h
  | cons p rest ih =>
    obtain ⟨k, v⟩ := p
    by_cases hk : k = key
    · subst hk
      simp_all [assignPair]
    · rw [List.lookup_cons, beq_false_of_ne (Ne.symm hk)] at h
      simp [assignPair, hk, ih h]

end ErrorCatalog
