import ErrorCatalog.Text.Case
import ErrorCatalog.Text.Range

/-!
# `ErrorCatalog/Proofs/Text/Case.lean` — characters that letter case leaves alone

The case mappings move letters onto letters. Every other character is its own image, and the image of
no character but itself. That is a fact about the tables, and it is checked on the tables: a set of
ranges that no row starts from and no row leads into is *apart* from them (`apart`), and what follows
for a character of such a set is said once, for any tables (`mem_caseImage_iff`).

A row of a table covers an interval and moves it, so the check compares intervals and never looks at
single characters.
-/

set_option autoImplicit false

namespace ErrorCatalog

/-! ## 1. What the tables say of one character -/

/-- Whether a run has a row for a number. -/
def CaseRun.Covers (r : CaseRun) (n : Nat) : Prop :=
  r.first ≤ n ∧ n ≤ r.last ∧ (n - r.first) % r.step = 0

theorem CaseRun.image?_eq_some_iff {r : CaseRun} {n m : Nat} :
    r.image? n = some m ↔ r.Covers n ∧ r.image + (n - r.first) = m := by
  unfold CaseRun.image? CaseRun.Covers
  split
  · rename_i hcovers
    simp [hcovers]
  · rename_i hcovers
    simp [hcovers]

/-- **What the tables say of a character.** It has an expansion, or a run covers it, or it is left
alone. -/
theorem caseImage_cases (runs : List CaseRun) (expansions : List (Nat × List Nat)) (c : Char) :
    (∃ e ∈ expansions, c.toNat = e.1 ∧ caseImage runs expansions c = e.2.map Char.ofNat) ∨
    (∃ r ∈ runs, r.Covers c.toNat ∧
      caseImage runs expansions c = [Char.ofNat (r.image + (c.toNat - r.first))]) ∨
    caseImage runs expansions c = [c] := by
  unfold caseImage
  cases hlookup : expansions.lookup c.toNat with
  | some image =>
    obtain ⟨before, after, hsplit, -⟩ := List.lookup_eq_some_iff.mp hlookup
    exact Or.inl ⟨(c.toNat, image), by simp [hsplit], rfl, rfl⟩
  | none =>
    cases hfind : runs.findSome? (·.image? c.toNat) with
    | some n =>
      obtain ⟨r, hr, hrn⟩ := List.exists_of_findSome?_eq_some hfind
      obtain ⟨hcovers, rfl⟩ := CaseRun.image?_eq_some_iff.mp hrn
      exact Or.inr (Or.inl ⟨r, hr, hcovers, rfl⟩)
    | none => exact Or.inr (Or.inr rfl)

/-- A number that is no character becomes the character zero. -/
theorem toNat_ofNat (n : Nat) : (Char.ofNat n).toNat = n ∨ (Char.ofNat n).toNat = 0 := by
  by_cases hn : n.isValidChar
  · left
    rw [Char.ofNat, dif_pos hn]
    rfl
  · right
    rw [Char.ofNat, dif_neg hn]
    rfl

/-! ## 2. Ranges apart from tables -/

/-- Whether no number from `low` to `high` is in a range. -/
def outside (ranges : List (Nat × Nat)) (low high : Nat) : Bool :=
  ranges.all fun q => high < q.1 || q.2 < low

theorem not_inRanges_of_outside {ranges : List (Nat × Nat)} {low high : Nat} {c : Char}
    (h : outside ranges low high = true) (hlow : low ≤ c.toNat) (hhigh : c.toNat ≤ high) :
    inRanges ranges c ≠ true := by
  intro hc
  obtain ⟨q, hq, hfirst, hlast⟩ := (inRanges_iff ranges c).mp hc
  have hout := List.all_eq_true.mp h q hq
  simp only [Bool.or_eq_true, decide_eq_true_eq] at hout
  omega

/-- Whether no row of the tables starts from one of the ranges or leads into it. The number zero is
left out of the ranges, because it is what a number that is no character becomes. -/
def apart (ranges : List (Nat × Nat)) (runs : List CaseRun) (expansions : List (Nat × List Nat)) :
    Bool :=
  outside ranges 0 0 &&
    (runs.all fun r => outside ranges r.first r.last &&
      outside ranges r.image (r.image + (r.last - r.first))) &&
    expansions.all fun e => outside ranges e.1 e.1 && e.2.all fun n => outside ranges n n

section Apart

variable {ranges : List (Nat × Nat)} {runs : List CaseRun} {expansions : List (Nat × List Nat)}
  {c : Char}

theorem not_inRanges_ofNat (hzero : outside ranges 0 0 = true) {low high n : Nat}
    (h : outside ranges low high = true) (hlow : low ≤ n) (hhigh : n ≤ high) :
    inRanges ranges (Char.ofNat n) ≠ true := by
  rcases toNat_ofNat n with heq | heq
  · exact not_inRanges_of_outside h (by omega) (by omega)
  · exact not_inRanges_of_outside hzero (by omega) (by omega)

/-- A character of such a range is left alone. -/
theorem caseImage_of_apart (h : apart ranges runs expansions = true)
    (hc : inRanges ranges c = true) : caseImage runs expansions c = [c] := by
  obtain ⟨hfirst, hexpansions⟩ := Bool.and_eq_true_iff.mp h
  obtain ⟨-, hruns⟩ := Bool.and_eq_true_iff.mp hfirst
  rcases caseImage_cases runs expansions c with ⟨e, he, heq, -⟩ | ⟨r, hr, hcovers, -⟩ | hself
  · have hkey := (Bool.and_eq_true_iff.mp (List.all_eq_true.mp hexpansions e he)).1
    exact absurd hc (not_inRanges_of_outside hkey (Nat.le_of_eq heq.symm) (Nat.le_of_eq heq))
  · have hrow := (Bool.and_eq_true_iff.mp (List.all_eq_true.mp hruns r hr)).1
    exact absurd hc (not_inRanges_of_outside hrow hcovers.1 hcovers.2.1)
  · exact hself

/-- **A character of such a range is its own image and that of no other character.** -/
theorem mem_caseImage_iff (h : apart ranges runs expansions = true) {x : Char}
    (hx : inRanges ranges x = true) (c : Char) : x ∈ caseImage runs expansions c ↔ c = x := by
  constructor
  · intro hmem
    obtain ⟨hfirst, hexpansions⟩ := Bool.and_eq_true_iff.mp h
    obtain ⟨hzero, hruns⟩ := Bool.and_eq_true_iff.mp hfirst
    rcases caseImage_cases runs expansions c with ⟨e, he, -, himage⟩ | ⟨r, hr, hcovers, himage⟩ |
      himage
    · obtain ⟨n, hn, rfl⟩ := List.mem_map.mp (himage ▸ hmem)
      have hout := (Bool.and_eq_true_iff.mp (List.all_eq_true.mp hexpansions e he)).2
      exact absurd hx (not_inRanges_ofNat hzero (List.all_eq_true.mp hout n hn) (Nat.le_refl n)
        (Nat.le_refl n))
    · obtain rfl := List.mem_singleton.mp (himage ▸ hmem)
      have hout := (Bool.and_eq_true_iff.mp (List.all_eq_true.mp hruns r hr)).2
      have hlast : c.toNat - r.first ≤ r.last - r.first := Nat.sub_le_sub_right hcovers.2.1 _
      exact absurd hx (not_inRanges_ofNat hzero hout (Nat.le_add_right _ _)
        (Nat.add_le_add_left hlast _))
    · exact (List.mem_singleton.mp (himage ▸ hmem)).symm
  · rintro rfl
    rw [caseImage_of_apart h hx]
    exact List.mem_singleton_self c

end Apart

/-! ## 3. Characters that are no letters -/

/-- The ASCII characters that are no letters. -/
def symbolRanges : List (Nat × Nat) := [(0x01, 0x40), (0x5B, 0x60), (0x7B, 0x7F)]

theorem apart_upper : apart symbolRanges upperRuns upperExpansions = true := by decide +kernel

theorem apart_lower : apart symbolRanges lowerRuns lowerExpansions = true := by decide +kernel

theorem mem_upper_iff {x : Char} (hx : inRanges symbolRanges x = true) (c : Char) :
    x ∈ upper c ↔ c = x :=
  mem_caseImage_iff apart_upper hx c

theorem mem_lower_iff {x : Char} (hx : inRanges symbolRanges x = true) (c : Char) :
    x ∈ lower c ↔ c = x :=
  mem_caseImage_iff apart_lower hx c

end ErrorCatalog
