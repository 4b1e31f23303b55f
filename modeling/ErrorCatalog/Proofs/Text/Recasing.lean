import Mathlib.Data.Bool.AllAny
import Mathlib.Data.List.Chain
import Mathlib.Data.Nat.Bitwise
import ErrorCatalog.Proofs.Text.Case

/-!
# `ErrorCatalog/Proofs/Text/Recasing.lean` — one case mapping after another

Two facts about the tables, each about what one mapping does to the result of another.

* Upper case is final: no character that comes out of it is moved by it (`upper_of_mem_upper`).
* Upper case does not see whether lower case came first (`toUpper_lower`), **but for six capitals**.
  They are second spellings: each has a lower case form that is also the lower case form of another
  capital, and it is that one which upper case gives back. `oneWayCapitals` has them.

The tables cover some three thousand characters, so nothing here looks at the characters one by one.
For the first fact two sets of numbers are compared, as the bits of two numbers (`bitsOf`). For the
second it is nearly always enough to look at rows: a run of one table undoes a run of the other
(`CaseRun.undoes`). Only where no run does, as with the title case letters, characters are tried.
-/

set_option autoImplicit false

namespace ErrorCatalog

/-! ## 1. Sets of numbers -/

/-- The number whose bits are the members of a list. -/
def bitsOf : List Nat → Nat
  | [] => 0
  | n :: ns => 1 <<< n ||| bitsOf ns

theorem testBit_bitsOf {n : Nat} {ns : List Nat} (h : n ∈ ns) : (bitsOf ns).testBit n = true := by
  induction ns with
  | nil => cases h
  | cons m ns ih =>
    rw [bitsOf, Nat.testBit_or]
    rcases List.mem_cons.mp h with rfl | h
    · simp [Nat.testBit_shiftLeft]
    · rw [ih h, Bool.or_true]

/-- Lists without a common bit have no common member. -/
theorem not_mem_of_bitsOf {ns ms : List Nat} (h : bitsOf ns &&& bitsOf ms = 0) {n : Nat}
    (hn : n ∈ ns) : n ∉ ms := by
  intro hm
  have hbit : (bitsOf ns &&& bitsOf ms).testBit n = true := by
    rw [Nat.testBit_and, testBit_bitsOf hn, testBit_bitsOf hm, Bool.and_self]
  rw [h, Nat.zero_testBit] at hbit
  cases hbit

/-! ## 2. What a table covers and what it leads to -/

/-- The numbers that a run covers. -/
def CaseRun.members (r : CaseRun) : List Nat :=
  (List.range ((r.last - r.first) / r.step + 1)).map fun i => r.first + i * r.step

theorem CaseRun.mem_members {r : CaseRun} {n : Nat} (h : r.Covers n) : n ∈ r.members := by
  obtain ⟨hfirst, hlast, hstep⟩ := h
  have hdistance : (n - r.first) / r.step * r.step = n - r.first :=
    Nat.div_mul_cancel (Nat.dvd_of_mod_eq_zero hstep)
  have hcount : (n - r.first) / r.step ≤ (r.last - r.first) / r.step :=
    Nat.div_le_div_right (Nat.sub_le_sub_right hlast _)
  exact List.mem_map.mpr ⟨_, List.mem_range.mpr (Nat.lt_succ_of_le hcount), by omega⟩

variable (runs : List CaseRun) (expansions : List (Nat × List Nat))

def coveredNumbers : List Nat := expansions.map (·.1) ++ runs.flatMap CaseRun.members

def imageNumbers : List Nat :=
  expansions.flatMap (·.2) ++ runs.flatMap fun r => r.members.map fun n => r.image + (n - r.first)

variable {runs expansions}

theorem caseImage_of_not_covered {c : Char} (h : c.toNat ∉ coveredNumbers runs expansions) :
    caseImage runs expansions c = [c] := by
  rcases caseImage_cases runs expansions c with ⟨e, he, heq, -⟩ | ⟨r, hr, hcovers, -⟩ | hself
  · exact absurd (List.mem_append_left _ (List.mem_map.mpr ⟨e, he, heq.symm⟩)) h
  · exact absurd (List.mem_append_right _ (List.mem_flatMap.mpr ⟨r, hr, r.mem_members hcovers⟩)) h
  · exact hself

/-- A character of an image is the character itself, or one that a row leads to. Zero is what a number
becomes that is no character. -/
theorem eq_or_mem_imageNumbers {c d : Char} (hd : d ∈ caseImage runs expansions c) :
    (d = c ∧ caseImage runs expansions c = [c]) ∨ d.toNat ∈ 0 :: imageNumbers runs expansions := by
  have hnumber : ∀ n ∈ imageNumbers runs expansions,
      (Char.ofNat n).toNat ∈ 0 :: imageNumbers runs expansions := by
    intro n hn
    rcases toNat_ofNat n with heq | heq
    · exact heq.symm ▸ List.mem_cons_of_mem _ hn
    · exact heq.symm ▸ List.mem_cons_self
  rcases caseImage_cases runs expansions c with ⟨e, he, -, himage⟩ | ⟨r, hr, hcovers, himage⟩ |
    himage
  · obtain ⟨n, hn, rfl⟩ := List.mem_map.mp (himage ▸ hd)
    exact Or.inr (hnumber n (List.mem_append_left _ (List.mem_flatMap.mpr ⟨e, he, hn⟩)))
  · obtain rfl := List.mem_singleton.mp (himage ▸ hd)
    exact Or.inr (hnumber _ (List.mem_append_right _ (List.mem_flatMap.mpr
      ⟨r, hr, List.mem_map.mpr ⟨_, r.mem_members hcovers, rfl⟩⟩)))
  · exact Or.inl ⟨List.mem_singleton.mp (himage ▸ hd), himage⟩

/-! ## 3. Upper case twice -/

/-- No number that upper case leads to is one that it covers. -/
theorem bitsOf_upper : bitsOf (0 :: imageNumbers upperRuns upperExpansions) &&&
    bitsOf (coveredNumbers upperRuns upperExpansions) = 0 := by decide +kernel

/-- **Upper case is final.** -/
theorem upper_of_mem_upper {c d : Char} (hd : d ∈ upper c) : upper d = [d] := by
  rcases eq_or_mem_imageNumbers hd with ⟨rfl, hself⟩ | himage
  · exact hself
  · exact caseImage_of_not_covered (not_mem_of_bitsOf bitsOf_upper himage)

theorem Text.upper_of_mem_toUpper {t : Text} {d : Char} (hd : d ∈ t.toUpper) : upper d = [d] := by
  obtain ⟨c, -, hmem⟩ := List.mem_flatMap.mp hd
  exact upper_of_mem_upper hmem

/-! ## 4. Upper case after lower case -/

/-- Capitals that are second spellings: `İ`, `ϴ`, `ẞ`, and the signs for ohm, kelvin and ångström. -/
def oneWayCapitals : List Char := ['\u0130', '\u03F4', '\u1E9E', '\u2126', '\u212A', '\u212B']

/-- Whether a run takes everything back that another leads to. -/
def CaseRun.undoes (q r : CaseRun) : Bool :=
  Nat.ble (r.image + (r.last - r.first)) q.last && Nat.ble q.first r.image &&
    Nat.beq (q.image + (r.image - q.first)) r.first && Nat.beq ((r.image - q.first) % q.step) 0 &&
    (Nat.beq r.first r.last || Nat.beq (r.step % q.step) 0)

theorem CaseRun.image?_of_undoes {q r : CaseRun} (h : q.undoes r = true) {n : Nat}
    (hn : r.Covers n) : q.image? (r.image + (n - r.first)) = some n := by
  obtain ⟨hfirst, hlast, hstep⟩ := hn
  simp only [undoes, Bool.and_eq_true, Bool.or_eq_true, Nat.ble_eq, Nat.beq_eq] at h
  obtain ⟨⟨⟨⟨hhigh, hlow⟩, hback⟩, hplace⟩, hstride⟩ := h
  have hsplit : r.image + (n - r.first) - q.first = (r.image - q.first) + (n - r.first) := by omega
  -- The run is one number only, or its steps are steps of the other run as well.
  have hmod : (n - r.first) % q.step = 0 := by
    rcases hstride with hsingle | hstride
    · rw [show n - r.first = 0 by omega, Nat.zero_mod]
    · exact Nat.mod_eq_zero_of_dvd
        ((Nat.dvd_of_mod_eq_zero hstride).trans (Nat.dvd_of_mod_eq_zero hstep))
  have hcovers : q.Covers (r.image + (n - r.first)) := by
    refine ⟨by omega, by omega, ?_⟩
    rw [hsplit, Nat.add_mod, hplace, hmod, Nat.zero_add, Nat.zero_mod]
  exact image?_eq_some_iff.mpr ⟨hcovers, by omega⟩

/-- The order of the rows of a table: no two of them overlap. -/
def CaseRun.Before (q r : CaseRun) : Prop := q.last < r.first ∧ r.first ≤ r.last

instance : DecidableRel CaseRun.Before := fun _ _ => inferInstanceAs (Decidable (_ ∧ _))

instance : Trans CaseRun.Before CaseRun.Before CaseRun.Before where
  trans h k := ⟨Nat.lt_of_lt_of_le h.1 (Nat.le_of_lt (Nat.lt_of_le_of_lt h.2 k.1)), k.2⟩

/-- In a table with its rows in order, a run that covers a number is the one that is found. -/
theorem findSome?_image?_of_mem {q : CaseRun} {n m : Nat} (h : runs.Pairwise CaseRun.Before)
    (hq : q ∈ runs) (hm : q.image? n = some m) : runs.findSome? (·.image? n) = some m := by
  induction h with
  | nil => cases hq
  | @cons r rest hr _ ih =>
    rcases List.mem_cons.mp hq with rfl | hq
    · rw [List.findSome?_cons, hm]
    · have hcovers := (CaseRun.image?_eq_some_iff.mp hm).1
      have hnone : r.image? n = none := by
        refine Option.eq_none_iff_forall_ne_some.mpr fun k hk => ?_
        have hlast := (CaseRun.image?_eq_some_iff.mp hk).1.2.1
        exact absurd (Nat.lt_of_le_of_lt hlast (hr q hq).1) (Nat.not_lt.mpr hcovers.1)
      rw [List.findSome?_cons, hnone]
      exact ih hq

theorem pairwise_upperRuns : upperRuns.Pairwise CaseRun.Before :=
  List.isChain_iff_pairwise.mp (by decide +kernel)

/-- What a run covers has no expansion. -/
theorem bitsOf_upperRuns : bitsOf (upperRuns.flatMap CaseRun.members) &&&
    bitsOf (upperExpansions.map (·.1)) = 0 := by decide +kernel

theorem upper_of_image? {q : CaseRun} {d : Char} {m : Nat} (hq : q ∈ upperRuns)
    (hm : q.image? d.toNat = some m) : upper d = [Char.ofNat m] := by
  have hcovers := (CaseRun.image?_eq_some_iff.mp hm).1
  have hnumber : d.toNat ∉ upperExpansions.map (·.1) :=
    not_mem_of_bitsOf bitsOf_upperRuns (List.mem_flatMap.mpr ⟨q, hq, q.mem_members hcovers⟩)
  have hlookup : upperExpansions.lookup d.toNat = none := by
    refine List.lookup_eq_none_iff.mpr fun e he => ?_
    exact bne_iff_ne.mpr fun heq => hnumber (heq ▸ List.mem_map_of_mem he)
  rw [upper, caseImage, hlookup, findSome?_image?_of_mem pairwise_upperRuns hq hm]

/-- Whether a run leads to characters only. -/
def CaseRun.staysValid (r : CaseRun) : Bool :=
  Nat.ble (r.image + (r.last - r.first)) 0xD7FF ||
    (Nat.ble 0xE000 r.image && Nat.ble (r.image + (r.last - r.first)) 0x10FFFF)

theorem CaseRun.toNat_image {r : CaseRun} (h : r.staysValid = true) {n : Nat} (hn : r.Covers n) :
    (Char.ofNat (r.image + (n - r.first))).toNat = r.image + (n - r.first) := by
  obtain ⟨-, hlast, -⟩ := hn
  simp only [staysValid, Bool.and_eq_true, Bool.or_eq_true, Nat.ble_eq] at h
  have hvalid : (r.image + (n - r.first)).isValidChar := by
    unfold Nat.isValidChar
    omega
  rw [Char.ofNat, dif_pos hvalid]
  rfl

/-- A row of the lower case table is undone by a row of the upper case table, or its characters are
one-way capitals or have the upper case form of their lower case form. -/
theorem lowerRuns_undone : (lowerRuns.all fun r =>
    (r.staysValid && upperRuns.any (·.undoes r)) || r.members.all fun n =>
      oneWayCapitals.contains (Char.ofNat n) ||
        upper (Char.ofNat (r.image + (n - r.first))) == upper (Char.ofNat n)) = true := by
  decide +kernel

/-- **Upper case does not see whether lower case came first**, but for the one-way capitals. -/
theorem toUpper_lower {c : Char} (hc : c ∉ oneWayCapitals) : (lower c).toUpper = upper c := by
  rcases caseImage_cases lowerRuns lowerExpansions c with ⟨e, he, heq, -⟩ |
    ⟨r, hr, hcovers, himage⟩ | hself
  · -- The only expansion is that of a one-way capital.
    obtain rfl := List.mem_singleton.mp he
    have hdotted : c = '\u0130' := by rw [← Char.ofNat_toNat c, heq]
    exact absurd (hdotted ▸ List.mem_cons_self) hc
  · rw [lower, himage, Text.toUpper_singleton]
    rcases Bool.or_eq_true_iff.mp (List.all_eq_true.mp lowerRuns_undone r hr) with hundone | htried
    · obtain ⟨hvalid, hany⟩ := Bool.and_eq_true_iff.mp hundone
      obtain ⟨q, hq, hundoes⟩ := List.any_eq_true.mp hany
      have hnumber :
          q.image? (Char.ofNat (r.image + (c.toNat - r.first))).toNat = some c.toNat := by
        rw [r.toNat_image hvalid hcovers, q.image?_of_undoes hundoes hcovers]
      have hback : upper (Char.ofNat (r.image + (c.toNat - r.first))) = [c] := by
        rw [upper_of_image? hq hnumber, Char.ofNat_toNat]
      -- The character comes out of upper case, so upper case leaves it alone.
      rw [hback, upper_of_mem_upper (hback ▸ List.mem_singleton_self c)]
    · have htry := List.all_eq_true.mp htried c.toNat (r.mem_members hcovers)
      rw [Char.ofNat_toNat] at htry
      simpa [hc] using htry
  · rw [lower, hself, Text.toUpper_singleton]

/-- For a one-way capital it makes a difference. -/
theorem toUpper_lower_ne {c : Char} (hc : c ∈ oneWayCapitals) : (lower c).toUpper ≠ upper c := by
  have hall : ∀ c ∈ oneWayCapitals, (lower c).toUpper ≠ upper c :=
    List.all_iff_forall_prop.mp (by decide +kernel)
  exact hall c hc

end ErrorCatalog
