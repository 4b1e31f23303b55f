import Mathlib.Data.Bool.AllAny
import ErrorCatalog.Proofs.Catalog.Name
import ErrorCatalog.Proofs.Catalog.Refusal

/-!
# `ErrorCatalog/Proofs/Catalog/Spelling.lean` — labels that differ in case

Two labels are spellings of one another if their words agree in lower case. One would like them to
have the same name, and nearly always they do: a name is made by upper case, and upper case does not
see whether lower case came first. It does for the six `oneWayCapitals`. `groß` and `GROẞ` agree in
lower case, and their names are `GROSS` and `GROẞ`.

So the statement has two halves (`RecordName.ofLabel_eq_of_spelling`): without those six letters all
spellings of a label collide, and each of the six is told apart from its own lower case form.

The lower case of a text is more than that of its characters. A capital sigma becomes `ς` at the end
of a word and `σ` elsewhere, and what counts as the end depends on two character properties, *cased*
and *case-ignorable*. Nothing here depends on which characters have them, so they are parameters.
-/

set_option autoImplicit false

namespace ErrorCatalog

/-! ## 1. Lower case of a text -/

section Lower

variable (cased ignorable : Char → Bool)

/-- Whether a text starts with a cased character, ignorable characters passed over. -/
def startsCased (t : Text) : Bool := (t.dropWhile ignorable).head?.any cased

/-- The lower case of a text that stands after `before`, of which the nearest character comes first.
A capital sigma is at the end of a word if there is a cased character before it and none after it. -/
def lowerAfter : Text → Text → Text
  | _, [] => []
  | before, c :: rest =>
    (if c = 'Σ' then
      if startsCased cased ignorable before && !startsCased cased ignorable rest then ['ς'] else ['σ']
    else lower c) ++ lowerAfter (c :: before) rest

def Text.toLower (t : Text) : Text := lowerAfter cased ignorable [] t

/-- Without a capital sigma the characters are lower-cased one by one. -/
theorem lowerAfter_of_no_sigma {t : Text} (h : ∀ c ∈ t, c ≠ 'Σ') :
    ∀ before, lowerAfter cased ignorable before t = t.flatMap lower := by
  induction t with
  | nil => intro before; rfl
  | cons c rest ih =>
    intro before
    rw [lowerAfter, if_neg (h c List.mem_cons_self), ih fun d hd => h d (List.mem_cons_of_mem _ hd),
      List.flatMap_cons]

/-- Both small sigmas have the same capital. -/
theorem toUpper_sigma (final : Bool) :
    Text.toUpper (if final then ['ς'] else ['σ']) = upper 'Σ' := by
  cases final <;> decide +kernel

theorem toUpper_lowerAfter {t : Text} (h : ∀ c ∈ t, c ∉ oneWayCapitals) :
    ∀ before, (lowerAfter cased ignorable before t).toUpper = t.toUpper := by
  induction t with
  | nil => intro before; rfl
  | cons c rest ih =>
    intro before
    have hrest := ih (fun d hd => h d (List.mem_cons_of_mem _ hd)) (c :: before)
    rw [lowerAfter, Text.toUpper_append, hrest, Text.toUpper_cons, List.append_left_inj]
    split
    · rename_i hsigma
      rw [hsigma, toUpper_sigma]
    · exact toUpper_lower (h c List.mem_cons_self)

end Lower

/-! ## 2. Spellings of a label -/

/-- Whether the words of two labels agree in lower case. -/
def Text.Spells (cased ignorable : Char → Bool) (a b : Text) : Prop :=
  a.words.map (Text.toLower cased ignorable) = b.words.map (Text.toLower cased ignorable)

theorem Text.map_toUpper_words (cased ignorable : Char → Bool) {t : Text}
    (h : ∀ c ∈ t, c ∉ oneWayCapitals) :
    t.words.map Text.toUpper =
      (t.words.map (Text.toLower cased ignorable)).map Text.toUpper := by
  rw [List.map_map]
  refine List.map_congr_left fun w hw => ?_
  have hword : ∀ c ∈ w, c ∉ oneWayCapitals := fun c hc => h c ((of_mem_words hw).2 c hc).1
  exact (toUpper_lowerAfter cased ignorable hword []).symm

theorem canonicalName_eq_of_spells {cased ignorable : Char → Bool} {a b : Text}
    (h : a.Spells cased ignorable b) (ha : ∀ c ∈ a, c ∉ oneWayCapitals)
    (hb : ∀ c ∈ b, c ∉ oneWayCapitals) : canonicalName a = canonicalName b := by
  rw [canonicalName_eq, canonicalName_eq, Text.map_toUpper_words cased ignorable ha,
    Text.map_toUpper_words cased ignorable hb, h]

/-- Rows with one name are not both taken, if repeating a name is refused. -/
theorem Source.exists_error_of_same_name {source : Source} {header : Row} {data : List Row}
    (hrows : source.rows = header :: data) {i j : Nat} (hij : i < j) {row other : Row}
    (hi : data[i]? = some row) (hj : data[j]? = some other)
    (hname : row.recordName = other.recordName) (onOverflow : OverflowPolicy) :
    ∃ e, source.catalog ⟨.reject, onOverflow⟩ = .error e :=
  (exists_error_iff_refusesAt hrows).mpr ⟨j, other, hj, Or.inr ⟨rfl, i, hij, row, hi, hname⟩⟩

theorem canonicalName_of_word {w : Text} (hne : w ≠ []) (h : ∀ c ∈ w, isBlank c = false) :
    canonicalName w = w.toUpper := by
  rw [canonicalName_eq, Text.words_of_forall_not_isBlank hne h]
  rfl

/-- A one-way capital and its lower case form are words, and lower case leaves the latter alone. -/
theorem lower_of_mem_oneWayCapitals {c : Char} (hc : c ∈ oneWayCapitals) :
    isBlank c = false ∧ c ≠ 'Σ' ∧ lower c ≠ [] ∧ (lower c).flatMap lower = lower c ∧
      ∀ d ∈ lower c, isBlank d = false ∧ d ≠ 'Σ' := by
  have hall : ∀ c ∈ oneWayCapitals, isBlank c = false ∧ c ≠ 'Σ' ∧ lower c ≠ [] ∧
      (lower c).flatMap lower = lower c ∧
      ((lower c).all fun d => isBlank d = false ∧ d ≠ 'Σ') = true :=
    List.all_iff_forall_prop.mp (by decide +kernel)
  obtain ⟨hblank, hsigma, hne, hlower, hletters⟩ := hall c hc
  exact ⟨hblank, hsigma, hne, hlower, List.all_iff_forall_prop.mp hletters⟩

/-- A one-way capital is told apart from its lower case form. -/
theorem ofLabel_ne_of_mem_oneWayCapitals (cased ignorable : Char → Bool) {c : Char}
    (hc : c ∈ oneWayCapitals) :
    Text.Spells cased ignorable [c] (lower c) ∧
      RecordName.ofLabel [c] ≠ RecordName.ofLabel (lower c) := by
  obtain ⟨hblank, hsigma, hne, hlower, hall⟩ := lower_of_mem_oneWayCapitals hc
  have hcapital : ∀ d ∈ [c], isBlank d = false ∧ d ≠ 'Σ' := by
    rintro d hd
    obtain rfl := List.mem_singleton.mp hd
    exact ⟨hblank, hsigma⟩
  have hcons : [c] ≠ [] := List.cons_ne_nil _ _
  constructor
  · rw [Text.Spells, Text.words_of_forall_not_isBlank hcons fun d hd => (hcapital d hd).1,
      Text.words_of_forall_not_isBlank hne fun d hd => (hall d hd).1, List.map_singleton,
      List.map_singleton, Text.toLower, Text.toLower,
      lowerAfter_of_no_sigma _ _ fun d hd => (hcapital d hd).2,
      lowerAfter_of_no_sigma _ _ fun d hd => (hall d hd).2, hlower, List.flatMap_singleton]
  · intro h
    have htext : canonicalName [c] = canonicalName (lower c) := congrArg RecordName.text h
    rw [canonicalName_of_word hcons fun d hd => (hcapital d hd).1,
      canonicalName_of_word hne fun d hd => (hall d hd).1, Text.toUpper_singleton] at htext
    exact toUpper_lower_ne hc htext.symm

/-- **Which spellings of a label have its name.** Without one-way capitals all of them have, so two
rows that start with them are not both taken if repeating a name is refused. A one-way capital by
itself is a label with another name than its lower case form. -/
theorem RecordName.ofLabel_eq_of_spelling (cased ignorable : Char → Bool) :
    (∀ a b : Text, a.Spells cased ignorable b →
      (∀ c ∈ a, c ∉ oneWayCapitals) → (∀ c ∈ b, c ∉ oneWayCapitals) →
      RecordName.ofLabel a = RecordName.ofLabel b ∧
      ∀ (source : Source) (header : Row) (data : List Row), source.rows = header :: data →
        ∀ (i j : Nat) (row other : Row), i < j → data[i]? = some row → data[j]? = some other →
          row.fields.getD 0 [] = a → other.fields.getD 0 [] = b →
          ∀ onOverflow, ∃ e, source.catalog ⟨.reject, onOverflow⟩ = .error e) ∧
    ∀ c ∈ oneWayCapitals, Text.Spells cased ignorable [c] (lower c) ∧
      RecordName.ofLabel [c] ≠ RecordName.ofLabel (lower c) := by
  refine ⟨fun a b h ha hb => ?_, fun c => ofLabel_ne_of_mem_oneWayCapitals cased ignorable⟩
  have hname : RecordName.ofLabel a = RecordName.ofLabel b :=
    RecordName.ext_text (canonicalName_eq_of_spells h ha hb)
  refine ⟨hname, fun source header data hrows i j row other hij hi hj hrow hother => ?_⟩
  have hlabels : row.recordName = other.recordName := by
    rw [Row.recordName, Row.recordName, hrow, hother, hname]
  exact Source.exists_error_of_same_name hrows hij hi hj hlabels

/-- Words that end in a sigma, which has two lower case forms and one upper case form. -/
theorem RecordName.ofLabel_eq_of_spelling_of_sigma :
    ∃ cased : Char → Bool, ∃ a b : Text, a = "ΣΑΣ  Σ".toList ∧ b = "\tσας σ".toList ∧
      a.Spells cased (· == '\'') b ∧ (∀ c ∈ a, c ∉ oneWayCapitals) ∧ (∀ c ∈ b, c ∉ oneWayCapitals) ∧
      RecordName.ofLabel a = RecordName.ofLabel b ∧
      ∃ e, (Source.ofText inlineName "name|note\nΣΑΣ  Σ|1\nA\n\tσας σ|2\n".toList).catalog
        ⟨.reject, .ignore⟩ = .error e := by
  let cased : Char → Bool := fun c => upper c != [c] || lower c != [c]
  have hspells : Text.Spells cased (· == '\'') "ΣΑΣ  Σ".toList "\tσας σ".toList := by
    unfold Text.Spells
    decide +kernel
  have ha : ∀ c ∈ "ΣΑΣ  Σ".toList, c ∉ oneWayCapitals := List.all_iff_forall_prop.mp (by decide)
  have hb : ∀ c ∈ "\tσας σ".toList, c ∉ oneWayCapitals := List.all_iff_forall_prop.mp (by decide)
  obtain ⟨hname, hrefused⟩ :=
    (RecordName.ofLabel_eq_of_spelling cased (· == '\'')).1 _ _ hspells ha hb
  exact ⟨cased, _, _, rfl, rfl, hspells, ha, hb, hname,
    hrefused (Source.ofText inlineName "name|note\nΣΑΣ  Σ|1\nA\n\tσας σ|2\n".toList)
      ⟨1, ["name".toList, "note".toList]⟩
      [⟨2, ["ΣΑΣ  Σ".toList, "1".toList]⟩, ⟨3, ["A".toList]⟩, ⟨4, ["\tσας σ".toList, "2".toList]⟩]
      rfl 0 2 _ _ (by decide) rfl rfl rfl rfl .ignore⟩

/-- **Not every spelling of a label has its name.** The lower case form of `ẞ` is `ß`, but the upper
case form of `ß` is `SS`. Both rows are taken although repeating a name is refused. -/
theorem RecordName.exists_spellings_with_two_names :
    ∃ a b : Text, a = "groß".toList ∧ b = "GRO\u1E9E".toList ∧
      (∀ cased ignorable, a.Spells cased ignorable b) ∧
      RecordName.ofLabel a ≠ RecordName.ofLabel b ∧
      ∃ c, (Source.ofText inlineName "name\ngroß\nGRO\u1E9E\n".toList).catalog ⟨.reject, .ignore⟩ =
        .ok c ∧ c.names = [RecordName.ofLabel a, RecordName.ofLabel b] := by
  have hspells : ∀ cased ignorable,
      Text.Spells cased ignorable "groß".toList "GRO\u1E9E".toList := by
    intro cased ignorable
    have hwords : Text.words "groß".toList = ["groß".toList] ∧
        Text.words "GRO\u1E9E".toList = ["GRO\u1E9E".toList] := by decide
    have ha : ∀ c ∈ "groß".toList, c ≠ 'Σ' := List.all_iff_forall_prop.mp (by decide)
    have hb : ∀ c ∈ "GRO\u1E9E".toList, c ≠ 'Σ' := List.all_iff_forall_prop.mp (by decide)
    have hlower : "groß".toList.flatMap lower = "GRO\u1E9E".toList.flatMap lower := by decide +kernel
    rw [Text.Spells, hwords.1, hwords.2, List.map_singleton, List.map_singleton, Text.toLower,
      Text.toLower, lowerAfter_of_no_sigma _ _ ha, lowerAfter_of_no_sigma _ _ hb, hlower]
  have hnames : ((Source.ofText inlineName "name\ngroß\nGRO\u1E9E\n".toList).catalog
      ⟨.reject, .ignore⟩).toOption.map (·.names) =
        some [RecordName.ofLabel "groß".toList, RecordName.ofLabel "GRO\u1E9E".toList] := by
    decide +kernel
  refine ⟨_, _, rfl, rfl, hspells, by decide +kernel, ?_⟩
  cases hcatalog : (Source.ofText inlineName "name\ngroß\nGRO\u1E9E\n".toList).catalog
      ⟨.reject, .ignore⟩ with
  | error e =>
    rw [hcatalog] at hnames
    cases hnames
  | ok c =>
    rw [hcatalog] at hnames
    exact ⟨c, rfl, Option.some.inj hnames⟩

end ErrorCatalog
