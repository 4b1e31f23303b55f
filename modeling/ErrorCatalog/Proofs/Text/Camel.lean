import ErrorCatalog.Text.Camel
import ErrorCatalog.Proofs.Text.Case
import ErrorCatalog.Proofs.Text.Pieces

/-!
# `ErrorCatalog/Proofs/Text/Camel.lean` — what camel case does not touch

Camel case drops the separators and changes letters. It cleans nothing: a slash, a quotation mark or
a backslash in the name of an attribute is in its camel case form as well, and none is there that was
not in the name.
-/

set_option autoImplicit false

namespace ErrorCatalog

namespace Text

theorem mem_capitalized_iff {x : Char} (hx : inRanges symbolRanges x = true) (t : Text) :
    x ∈ capitalized t ↔ x ∈ t := by
  cases t with
  | nil => exact Iff.rfl
  | cons c rest =>
    rw [capitalized, List.mem_append, mem_upper_iff hx, List.mem_cons]
    exact or_congr_left eq_comm

/-- **A symbol that is no separator** is in the camel case form exactly if it is in the name. -/
theorem mem_upperCamel_iff {x : Char} (hx : inRanges symbolRanges x = true)
    (hseparator : isComponentSeparator x = false) (t : Text) : x ∈ upperCamel t ↔ x ∈ t := by
  unfold upperCamel
  constructor
  · intro h
    obtain ⟨piece, hpiece, hmem⟩ := List.mem_flatMap.mp h
    exact (of_mem_pieces hpiece x ((mem_capitalized_iff hx piece).mp hmem)).1
  · intro h
    obtain ⟨piece, hpiece, hmem⟩ := exists_mem_pieces hseparator h
    exact List.mem_flatMap.mpr ⟨piece, hpiece, (mem_capitalized_iff hx piece).mpr hmem⟩

theorem mem_decapitalized_iff {x : Char} (hx : inRanges symbolRanges x = true) (t : Text) :
    x ∈ decapitalized t ↔ x ∈ t := by
  cases t with
  | nil => exact Iff.rfl
  | cons c rest =>
    rw [decapitalized, List.mem_append, mem_lower_iff hx, List.mem_cons]
    exact or_congr_left eq_comm

theorem mem_camel_iff {x : Char} (hx : inRanges symbolRanges x = true)
    (hseparator : isComponentSeparator x = false) (style : CaseStyle) (t : Text) :
    x ∈ camel style t ↔ x ∈ t := by
  cases style with
  | upperCamel => exact mem_upperCamel_iff hx hseparator t
  | lowerCamel => exact (mem_decapitalized_iff hx _).trans (mem_upperCamel_iff hx hseparator t)

end Text

end ErrorCatalog
