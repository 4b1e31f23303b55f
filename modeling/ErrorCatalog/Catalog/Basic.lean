import ErrorCatalog.Catalog.Name
import ErrorCatalog.Pairs

/-!
# `ErrorCatalog/Catalog/Basic.lean` — the catalog of records

A catalog has a list of attributes, which is never changed, and records, each a name with its
values. It is a map from names to values that remembers in which order the names first came in:
storing values under a new name puts the name at the end of the order, and storing them under a
known name leaves the order alone.

Values are read by position, and reading past the end gives the empty text. A record may hold more
values than the catalog has attributes; the additional ones are kept but stand for no attribute.

The order and the map are two containers, read by different operations: `size` and `names` look at
the order only, `get?` and `contains` at the map only, `records` at both. A name of the order
without values in the map would be missing from `records`; that there is none is not part of the
type, it is what `store` keeps.
-/

set_option autoImplicit false

namespace ErrorCatalog

/-- The values of one record, in the order of the attributes. -/
structure Values where
  fields : List Text
deriving DecidableEq

namespace Values

/-- The fields filled up on the right with empty texts to at least `width`. -/
def padded (fields : List Text) (width : Nat) : Values :=
  ⟨fields ++ List.replicate (width - fields.length) []⟩

def size (v : Values) : Nat := v.fields.length

/-- The value at a position; the empty text past the end. -/
def cell (v : Values) (index : Nat) : Text := v.fields.getD index []

theorem size_padded (fields : List Text) (width : Nat) :
    (padded fields width).size = max width fields.length := by
  simp [padded, size]; omega

theorem cell_padded (fields : List Text) (width index : Nat) :
    (padded fields width).cell index = fields.getD index [] := by
  simp only [padded, Values.cell, List.getD_eq_getElem?_getD, List.getElem?_append]
  split
  · rfl
  · rename_i h
    rw [List.getElem?_eq_none (by omega : fields.length ≤ index)]
    by_cases hi : index - fields.length < width - fields.length
    · simp [hi]
    · simp [hi]

end Values

/-- A record: its name and its values. -/
structure Record where
  name : RecordName
  values : Values
deriving DecidableEq

/-- Attributes, the names in the order in which they first came in, and the values by name. -/
structure Catalog where
  attributes : List Text
  order : List RecordName
  rows : List (RecordName × Values)
deriving DecidableEq

namespace Catalog

/-! ## 1. Operations -/

/-- The catalog without records. -/
def empty (attributes : List Text) : Catalog := ⟨attributes, [], []⟩

def width (c : Catalog) : Nat := c.attributes.length

/-- The number of records. -/
def size (c : Catalog) : Nat := c.order.length

/-- Whether there is no record. -/
def isEmpty (c : Catalog) : Bool := c.order.isEmpty

def names (c : Catalog) : List RecordName := c.order

/-- The values of the record with the given text as its name. -/
def get? (c : Catalog) (name : Text) : Option Values :=
  (c.rows.find? (·.1.text == name)).map (·.2)

def contains (c : Catalog) (name : Text) : Bool := c.rows.any (·.1.text == name)

def stored? (c : Catalog) (name : RecordName) : Option Values := c.rows.lookup name

/-- Stores values under a name, and gives back the values they replace. -/
def store (c : Catalog) (name : RecordName) (values : Values) : Option Values × Catalog :=
  let order := if (c.stored? name).isSome then c.order else c.order ++ [name]
  (c.stored? name, { c with order, rows := assignPair name values c.rows })

def insert (c : Catalog) (name : RecordName) (values : Values) : Catalog :=
  (c.store name values).2

def records (c : Catalog) : List Record :=
  c.order.filterMap fun name => (c.stored? name).map (Record.mk name)

/-- The names with their values at one position, in order. -/
def column (c : Catalog) (index : Nat) : List (RecordName × Text) :=
  c.records.map fun r => (r.name, r.values.cell index)

/-! ## 2. What storing does -/

@[simp] theorem attributes_insert (c : Catalog) (name : RecordName) (values : Values) :
    (c.insert name values).attributes = c.attributes := rfl

theorem order_insert (c : Catalog) (name : RecordName) (values : Values) :
    (c.insert name values).order =
      if (c.stored? name).isSome then c.order else c.order ++ [name] := rfl

theorem stored?_insert (c : Catalog) (name other : RecordName) (values : Values) :
    (c.insert name values).stored? other = if other = name then some values else c.stored? other :=
  lookup_assignPair name other values c.rows

/-- Reading by text is reading by name. -/
theorem get?_text (c : Catalog) (name : RecordName) : c.get? name.text = c.stored? name := by
  unfold get? stored?
  induction c.rows with
  | nil => rfl
  | cons p rest ih =>
    obtain ⟨key, values⟩ := p
    by_cases h : key = name
    · subst h
      simp
    · have ht : key.text ≠ name.text := fun e => h (RecordName.ext_text e)
      simp [List.lookup_cons, beq_false_of_ne (Ne.symm h), beq_false_of_ne ht, ih]

/-- A text that reads values is the text of a name with values. -/
theorem exists_stored?_of_get? {c : Catalog} {t : Text} {values : Values}
    (h : c.get? t = some values) : ∃ name, name.text = t ∧ c.stored? name = some values := by
  obtain ⟨p, hp, -⟩ := Option.map_eq_some_iff.mp h
  have ht : p.1.text = t := by simpa using List.find?_some hp
  exact ⟨p.1, ht, by rw [← get?_text, ht, h]⟩

end Catalog

end ErrorCatalog
