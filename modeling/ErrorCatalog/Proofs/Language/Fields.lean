import ErrorCatalog.Language
import ErrorCatalog.Proofs.Text.Camel
import ErrorCatalog.Proofs.Text.Recasing
import ErrorCatalog.Proofs.Text.Words

/-!
# `ErrorCatalog/Proofs/Language/Fields.lean` — artifact names and field names

An attribute gives two kinds of names. Its artifact and its accessor have the upper camel case form in
their names, its field is called by the upper or the lower form, as the language likes it. This file
says how far one kind of name decides the other.

Both forms are made from components, and the separators only tell where a component starts: one equation
has it all (`upperCamel_append_cons`). What a component starts with has gone through upper case, and
upper case is final, so a second pass changes nothing (`upperCamel_upperCamel`).

The lower form is made from the upper form, so attributes with one artifact name have one field name.
The way back is upper case again (`capitalized_lowerCamel`). It fails for the `oneWayCapitals`, which
have the lower case form of another letter; no ASCII letter is one of them.
-/

set_option autoImplicit false

namespace ErrorCatalog

namespace Text

/-! ## 1. Components -/

section Components

variable {c : Char} {gap : Text}

/-- **Camel case is made component by component.** All there is to know about separators follows. -/
theorem upperCamel_append_cons (hc : isComponentSeparator c = true) (t u : Text) :
    upperCamel (t ++ c :: u) = upperCamel t ++ upperCamel u := by
  unfold upperCamel
  rw [pieces_append_cons hc, List.flatMap_append]

theorem upperCamel_cons (hc : isComponentSeparator c = true) (t : Text) :
    upperCamel (c :: t) = upperCamel t :=
  upperCamel_append_cons hc [] t

theorem upperCamel_gap_append (hgap : ∀ c ∈ gap, isComponentSeparator c = true) (t : Text) :
    upperCamel (gap ++ t) = upperCamel t := by
  induction gap with
  | nil => rfl
  | cons c gap ih =>
    rw [List.cons_append, upperCamel_cons (hgap c (by simp))]
    exact ih fun d hd => hgap d (by simp [hd])

theorem upperCamel_append_gap (hgap : ∀ c ∈ gap, isComponentSeparator c = true) (t : Text) :
    upperCamel (t ++ gap) = upperCamel t := by
  cases gap with
  | nil => simp
  | cons c gap =>
    have hrest := upperCamel_gap_append (fun d hd => hgap d (List.mem_cons_of_mem c hd)) []
    rw [List.append_nil] at hrest
    rw [upperCamel_append_cons (hgap c (by simp)), hrest]
    simp [upperCamel, pieces, capitalized]

theorem upperCamel_of_forall_not {t : Text} (h : ∀ c ∈ t, isComponentSeparator c = false) :
    upperCamel t = capitalized t := by
  rw [upperCamel, pieces_of_forall_not h, List.flatMap_singleton]

theorem camel_eq_of_upperCamel_eq {t u : Text} (h : upperCamel t = upperCamel u) (style : CaseStyle) :
    camel style t = camel style u := by
  cases style with
  | upperCamel => exact h
  | lowerCamel => exact congrArg decapitalized h

end Components

/-! ## 2. Characters -/

theorem mem_of_mem_capitalized {x : Char} {t : Text} (h : x ∈ capitalized t) :
    ∃ d ∈ t, x = d ∨ x ∈ upper d := by
  cases t with
  | nil => cases h
  | cons c rest =>
    rcases List.mem_append.mp h with h | h
    · exact ⟨c, by simp, Or.inr h⟩
    · exact ⟨x, by simp [h], Or.inl rfl⟩

/-- A character of the camel case form is one of the name, or comes out of upper case from one. -/
theorem of_mem_upperCamel {x : Char} {t : Text} (h : x ∈ upperCamel t) :
    ∃ d ∈ t, isComponentSeparator d = false ∧ (x = d ∨ x ∈ upper d) := by
  obtain ⟨piece, hpiece, hmem⟩ := List.mem_flatMap.mp h
  obtain ⟨d, hd, hx⟩ := mem_of_mem_capitalized hmem
  obtain ⟨hdt, hseparator⟩ := of_mem_pieces hpiece d hd
  exact ⟨d, hdt, hseparator, hx⟩

theorem inRanges_symbolRanges_of_separator {c : Char} (hc : isComponentSeparator c = true) :
    inRanges symbolRanges c = true := by
  simp only [isComponentSeparator, Bool.or_eq_true, beq_iff_eq] at hc
  rcases hc with (rfl | rfl) | rfl <;> decide

theorem not_mem_upperCamel_of_separator {c : Char} (hc : isComponentSeparator c = true) (t : Text) :
    c ∉ upperCamel t := by
  intro h
  obtain ⟨d, -, hd, hcd⟩ := of_mem_upperCamel h
  -- A separator comes out of upper case from itself only.
  have heq : d = c := by
    rcases hcd with rfl | hcd
    · rfl
    · exact (mem_upper_iff (inRanges_symbolRanges_of_separator hc) d).mp hcd
  rw [heq, hc] at hd
  cases hd

theorem not_mem_camel_of_separator (style : CaseStyle) {c : Char}
    (hc : isComponentSeparator c = true) (t : Text) : c ∉ camel style t := by
  cases style with
  | upperCamel => exact not_mem_upperCamel_of_separator hc t
  | lowerCamel =>
    intro h
    have hsymbol := inRanges_symbolRanges_of_separator hc
    exact not_mem_upperCamel_of_separator hc t ((mem_decapitalized_iff hsymbol _).mp h)

/-! ## 3. The first character -/

theorem upper_of_head?_capitalized {texts : List Text} {x : Char}
    (h : (texts.flatMap capitalized).head? = some x) : upper x = [x] := by
  induction texts with
  | nil => cases h
  | cons t texts ih =>
    cases t with
    | nil => exact ih h
    | cons c rest =>
      obtain ⟨d, others, hupper⟩ := List.exists_cons_of_ne_nil (upper_ne_nil c)
      have hd : d = x := by simpa [capitalized, hupper] using h
      refine upper_of_mem_upper (c := c) ?_
      simp [hupper, hd]

/-- The camel case form starts with a character that upper case leaves alone. -/
theorem upper_of_head?_upperCamel {t : Text} {x : Char} (h : (upperCamel t).head? = some x) :
    upper x = [x] :=
  upper_of_head?_capitalized h

/-- **A second pass changes nothing.** -/
theorem upperCamel_upperCamel (t : Text) : upperCamel (upperCamel t) = upperCamel t := by
  have hnone : ∀ c ∈ upperCamel t, isComponentSeparator c = false := by
    intro c hc
    exact Bool.eq_false_iff.mpr fun hseparator => not_mem_upperCamel_of_separator hseparator t hc
  rw [upperCamel_of_forall_not hnone]
  cases ht : upperCamel t with
  | nil => rfl
  | cons x rest =>
    have hx : upper x = [x] := upper_of_head?_upperCamel (t := t) (by rw [ht, List.head?_cons])
    rw [capitalized, hx, List.singleton_append]

/-- The lower form differs from the upper form in what the first character has become. -/
theorem lowerCamel_eq (t : Text) :
    lowerCamel t = ((upperCamel t).take 1).flatMap lower ++ (upperCamel t).drop 1 := by
  unfold lowerCamel
  cases upperCamel t with
  | nil => rfl
  | cons x rest => simp [decapitalized]

/-! ## 4. From the lower form to the upper form -/

/-- A character that upper case leaves alone comes back from its lower case form, which is one
character, unless it is a one-way capital. -/
theorem exists_lower_eq {x : Char} (hupper : upper x = [x]) (hx : x ∉ oneWayCapitals) :
    ∃ y, lower x = [y] ∧ upper y = [x] := by
  have hback : (lower x).toUpper = [x] := (toUpper_lower hx).trans hupper
  cases hlower : lower x with
  | nil =>
    rw [hlower] at hback
    cases hback
  | cons y ys =>
    rw [hlower, toUpper_cons] at hback
    obtain ⟨d, others, hy⟩ := List.exists_cons_of_ne_nil (upper_ne_nil y)
    rw [hy, List.cons_append, List.cons.injEq, List.append_eq_nil_iff] at hback
    obtain ⟨rfl, rfl, hys⟩ := hback
    have hnil : ys = [] := by
      by_contra hne
      exact toUpper_ne_nil hne hys
    exact ⟨y, by rw [hnil], hy⟩

/-- **Upper case takes back the lower form**, unless the name starts with a one-way capital. -/
theorem capitalized_lowerCamel {t : Text} (h : ∀ x ∈ (upperCamel t).head?, x ∉ oneWayCapitals) :
    capitalized (lowerCamel t) = upperCamel t := by
  unfold lowerCamel
  cases ht : upperCamel t with
  | nil => rfl
  | cons x rest =>
    rw [ht] at h
    have hupper : upper x = [x] := upper_of_head?_upperCamel (t := t) (by rw [ht, List.head?_cons])
    obtain ⟨y, hlower, hback⟩ := exists_lower_eq hupper (h x rfl)
    rw [decapitalized, hlower, List.singleton_append, capitalized, hback, List.singleton_append]

theorem upperCamel_eq_of_lowerCamel_eq {t u : Text}
    (ht : ∀ x ∈ (upperCamel t).head?, x ∉ oneWayCapitals)
    (hu : ∀ x ∈ (upperCamel u).head?, x ∉ oneWayCapitals) (h : lowerCamel t = lowerCamel u) :
    upperCamel t = upperCamel u := by
  rw [← capitalized_lowerCamel ht, h, capitalized_lowerCamel hu]

/-- The kelvin sign has the lower case form of another letter. -/
example : lowerCamel ['\u212A'] = lowerCamel ['k'] ∧ upperCamel ['\u212A'] ≠ upperCamel ['k'] := by
  decide +kernel

/-! ## 5. ASCII names -/

/-- Whether all characters of a text are ASCII. -/
def IsAscii (t : Text) : Prop := ∀ c ∈ t, c.toNat < 128

instance (t : Text) : Decidable t.IsAscii :=
  decidable_of_iff (t.all (·.toNat < 128) = true) (by simp [IsAscii])

/-- Upper case of ASCII is ASCII. The tables are asked by intervals: what starts in ASCII stays there. -/
theorem toNat_lt_of_mem_upper {c d : Char} (hc : c.toNat < 128) (hd : d ∈ upper c) :
    d.toNat < 128 := by
  have hexpansions : ∀ e ∈ upperExpansions, 128 ≤ e.1 := by decide +kernel
  have hruns : ∀ r ∈ upperRuns, 128 ≤ r.first ∨ r.image + (r.last - r.first) < 128 := by
    decide +kernel
  rcases caseImage_cases upperRuns upperExpansions c with ⟨e, he, heq, -⟩ |
    ⟨r, hr, ⟨hfirst, hlast, -⟩, himage⟩ | himage
  · have := hexpansions e he
    omega
  · rw [upper, himage, List.mem_singleton] at hd
    have := hruns r hr
    rcases toNat_ofNat (r.image + (c.toNat - r.first)) with heq | heq <;> rw [hd, heq] <;> omega
  · rw [upper, himage, List.mem_singleton] at hd
    rwa [hd]

theorem IsAscii.upperCamel {t : Text} (h : t.IsAscii) : (upperCamel t).IsAscii := by
  intro x hx
  obtain ⟨d, hd, -, hxd⟩ := of_mem_upperCamel hx
  rcases hxd with rfl | hxd
  · exact h x hd
  · exact toNat_lt_of_mem_upper (h d hd) hxd

theorem IsAscii.not_mem_oneWayCapitals {t : Text} (h : t.IsAscii) :
    ∀ x ∈ t.head?, x ∉ oneWayCapitals := by
  intro x hx hmem
  have hall : ∀ c ∈ oneWayCapitals, 128 ≤ c.toNat := List.all_iff_forall_prop.mp (by decide)
  have hlt : x.toNat < 128 := h x (List.mem_of_head? hx)
  exact absurd hlt (Nat.not_lt.mpr (hall x hmem))

end Text

/-! ## 6. Artifact names and field names -/

/-- **The camel case forms of attributes.** Components are put together one by one, so separators in
front, at the end or in a row do not matter; no separator is left; a second pass changes nothing. The
lower form is the upper form with its first character in lower case. So attributes with one artifact name
have one field name, in every language; and ASCII attributes with one field name in a language have one
artifact name. -/
theorem camel_by_components (a b : Text) :
    (∀ c, isComponentSeparator c = true →
      Text.upperCamel (a ++ c :: b) = Text.upperCamel a ++ Text.upperCamel b) ∧
    (∀ style before after, (∀ c ∈ before ++ after, isComponentSeparator c = true) →
      Text.camel style (before ++ a ++ after) = Text.camel style a) ∧
    (∀ style c gap, isComponentSeparator c = true → (∀ d ∈ gap, isComponentSeparator d = true) →
      Text.camel style (a ++ c :: gap ++ b) = Text.camel style (a ++ c :: b)) ∧
    (∀ style c, isComponentSeparator c = true → c ∉ Text.camel style a) ∧
    Text.upperCamel (Text.upperCamel a) = Text.upperCamel a ∧
    Text.lowerCamel a =
      ((Text.upperCamel a).take 1).flatMap lower ++ (Text.upperCamel a).drop 1 ∧
    (Text.upperCamel a = Text.upperCamel b → ∀ l : Language, l.fieldName a = l.fieldName b) ∧
    (a.IsAscii → b.IsAscii → Text.lowerCamel a = Text.lowerCamel b →
      Text.upperCamel a = Text.upperCamel b) := by
  refine ⟨fun c hc => Text.upperCamel_append_cons hc a b, ?_, ?_,
    fun style c hc => Text.not_mem_camel_of_separator style hc a, Text.upperCamel_upperCamel a,
    Text.lowerCamel_eq a, ?_, ?_⟩
  · intro style before after h
    obtain ⟨hbefore, hafter⟩ := List.forall_mem_append.mp h
    apply Text.camel_eq_of_upperCamel_eq
    rw [Text.upperCamel_append_gap hafter, Text.upperCamel_gap_append hbefore]
  · intro style c gap hc hgap
    apply Text.camel_eq_of_upperCamel_eq
    rw [List.append_assoc, List.cons_append, Text.upperCamel_append_cons hc,
      Text.upperCamel_gap_append hgap, Text.upperCamel_append_cons hc]
  · intro h l
    exact Text.camel_eq_of_upperCamel_eq h l.fieldCase
  · intro ha hb h
    exact Text.upperCamel_eq_of_lowerCamel_eq ha.upperCamel.not_mem_oneWayCapitals
      hb.upperCamel.not_mem_oneWayCapitals h

/-- Two spellings of one name, and what becomes of them when a hyphen joins them. -/
theorem camel_by_components_of_spellings :
    let a : Text := "-http_status--text".toList
    let b : Text := "HttpStatus text ".toList
    isComponentSeparator '-' = true ∧
    Text.upperCamel (a ++ '-' :: b) = Text.upperCamel a ++ Text.upperCamel b ∧
    a.IsAscii ∧ b.IsAscii ∧ Text.lowerCamel a = Text.lowerCamel b ∧
    Text.upperCamel a = Text.upperCamel b ∧
    ∀ l : Language, l.fieldName a = l.fieldName b := by
  intro a b
  obtain ⟨happend, -, -, -, -, -, hfields, hascii⟩ := camel_by_components a b
  have hseparator : isComponentSeparator '-' = true := by decide
  have ha : a.IsAscii := by decide
  have hb : b.IsAscii := by decide
  have hlower : Text.lowerCamel a = Text.lowerCamel b := by decide +kernel
  have hupper : Text.upperCamel a = Text.upperCamel b := hascii ha hb hlower
  exact ⟨hseparator, happend '-' hseparator, ha, hb, hlower, hupper, hfields hupper⟩

end ErrorCatalog
