import ErrorCatalog.File.Path
import ErrorCatalog.Proofs.Text.Pieces

/-!
# `ErrorCatalog/Proofs/File/Path.lean` — what joining does to the parts of a path

Joining works on spellings: it may or may not have to add a slash, it may replace everything, and the
path on the left may be empty, the root or a lone dot. What a path means is its parts, and there the
answer is short. Joining with one name adds that name and nothing else (`parts_join_name`), whatever
the path on the left is spelled like.

A name is a text that is exactly one part wherever it stands: not empty, not `.` or `..`, and without
a slash. The last is not a matter of convenience. No part of any path has a slash in it
(`no_slash_of_mem_parts`), so a text with a slash is never one part, whatever it is joined to.

Joining with a name and then with anything else is joining once, with the two joined before
(`join_join_name`). This one is about spellings, so it also says what is printed.

Joining with a text that ends in a name gives a path that ends in this part, also if the text starts at
the root and nothing is left of the path before it (`getLast?_parts_join`).
-/

set_option autoImplicit false

namespace ErrorCatalog

/-! ## 1. Names -/

/-- Whether a text is one part of a path wherever it stands. -/
structure IsName (t : Text) : Prop where
  ne_nil : t ≠ []
  ne_here : t ≠ ['.']
  ne_up : t ≠ ['.', '.']
  no_slash : '/' ∉ t

namespace IsName

variable {t : Text}

theorem innerPart? (h : IsName t) : Path.innerPart? t = some (.name t) := by
  unfold Path.innerPart?
  rw [if_neg (not_or.mpr ⟨h.ne_nil, h.ne_here⟩), if_neg h.ne_up]

theorem pieces (h : IsName t) : Text.pieces isSlash t = [t] := by
  refine Text.pieces_of_forall_not fun c hc => ?_
  have hne : c ≠ '/' := fun e => h.no_slash (e ▸ hc)
  simpa [isSlash] using hne

theorem head_ne_slash {c : Char} {rest : Text} (h : IsName (c :: rest)) : c ≠ '/' := by
  rintro rfl
  exact h.no_slash List.mem_cons_self

theorem not_isAbsolute (h : IsName t) : Path.isAbsolute ⟨t⟩ = false := by
  cases t with
  | nil => rfl
  | cons c rest => simpa [Path.isAbsolute, isSlash] using h.head_ne_slash

end IsName

namespace Path

/-! ## 2. Leads -/

/-- A spelling that goes on after a slash has the lead it would have without. -/
theorem lead_append_slash {s : Text} (hs : s ≠ []) (t : Text) :
    lead ⟨s ++ '/' :: t⟩ = ((lead ⟨s⟩).1, (lead ⟨s⟩).2 ++ '/' :: t) := by
  cases s with
  | nil => exact absurd rfl hs
  | cons c rest =>
    by_cases hslash : c = '/'
    · subst hslash
      rfl
    · by_cases hdot : c = '.'
      · subst hdot
        -- A dot is a lead if nothing or a slash follows it.
        cases rest with
        | nil => rfl
        | cons d rest =>
          by_cases hd : d = '/'
          · subst hd
            rfl
          · simp [lead, hd]
      · simp [lead, hslash, hdot]

theorem lead_of_isName {t : Text} (h : IsName t) : lead ⟨t⟩ = ([], t) := by
  cases t with
  | nil => exact absurd rfl h.ne_nil
  | cons c rest =>
    have hc : c ≠ '/' := h.head_ne_slash
    by_cases hdot : c = '.'
    · subst hdot
      cases rest with
      | nil => exact absurd rfl h.ne_here
      | cons d rest =>
        have hd : d ≠ '/' := fun e =>
          h.no_slash (e ▸ List.mem_cons_of_mem _ List.mem_cons_self)
        simp [lead, hd]
    · simp [lead, hc, hdot]

/-! ## 3. Parts -/

def leadParts (front : Text) : List PathPart :=
  if front = ['/'] then [.root] else if front = ['.'] then [.here] else []

theorem parts_eq (p : Path) :
    p.parts = leadParts p.lead.1 ++ (Text.pieces isSlash p.lead.2).filterMap innerPart? := rfl

/-- A slash starts at the root, or separates the parts before it from those after it. -/
theorem parts_append_slash (s t : Text) :
    parts ⟨s ++ '/' :: t⟩ =
      (if s = [] then [.root] else parts ⟨s⟩) ++ (Text.pieces isSlash t).filterMap innerPart? := by
  by_cases hs : s = []
  · subst hs
    rfl
  · rw [if_neg hs, parts_eq, parts_eq, lead_append_slash hs,
      Text.pieces_append_cons (by decide : isSlash '/' = true), List.filterMap_append,
      List.append_assoc]

theorem parts_of_isName {t : Text} (h : IsName t) : parts ⟨t⟩ = [.name t] := by
  rw [parts_eq, lead_of_isName h]
  simp only [h.pieces, List.filterMap_cons, h.innerPart?, List.filterMap_nil]
  rfl

/-- **Joining with a name adds that name as one part**, and changes no other. -/
theorem parts_join_name (p : Path) {t : Text} (h : IsName t) :
    (p.join t).parts = p.parts ++ [.name t] := by
  obtain ⟨s⟩ := p
  have hpieces : (Text.pieces isSlash t).filterMap innerPart? = [.name t] := by
    rw [h.pieces]
    simp only [List.filterMap_cons, h.innerPart?, List.filterMap_nil]
  unfold join
  rw [if_neg (by rw [h.not_isAbsolute]; exact Bool.false_ne_true)]
  cases hlast : s.getLast? with
  | none =>
    obtain rfl := List.getLast?_eq_none_iff.mp hlast
    simp only
    rw [parts_of_isName h]
    rfl
  | some c =>
    obtain ⟨front, rfl⟩ := List.getLast?_eq_some_iff.mp hlast
    simp only
    split
    · -- The slash is there already: it separates nothing from nothing, and then `t` from the rest.
      rename_i hc
      obtain rfl : c = '/' := by simpa [isSlash] using hc
      rw [List.append_assoc, List.singleton_append, parts_append_slash, parts_append_slash, hpieces,
        List.append_assoc]
      rfl
    · rw [parts_append_slash, if_neg (by simp), hpieces]

theorem no_slash_of_mem_parts {p : Path} {t : Text} (h : .name t ∈ p.parts) : '/' ∉ t := by
  rw [parts_eq] at h
  rcases List.mem_append.mp h with h | h
  · unfold leadParts at h
    split at h
    · simp at h
    · split at h
      · simp at h
      · cases h
  · obtain ⟨piece, hpiece, hpart⟩ := List.mem_filterMap.mp h
    have heq : piece = t := by
      unfold innerPart? at hpart
      split at hpart
      · cases hpart
      · split at hpart
        · cases hpart
        · exact PathPart.name.inj (Option.some.inj hpart)
    subst heq
    intro hslash
    have hnot := (Text.of_mem_pieces hpiece '/' hslash).2
    exact absurd hnot (by decide)

/-! ## 4. Joining twice -/

/-- A path puts one text in front of everything it is joined with, unless that starts at the root. -/
theorem exists_front (p : Path) :
    ∃ front, ∀ q, isAbsolute ⟨q⟩ = false → p.join q = ⟨front ++ q⟩ := by
  unfold join
  cases p.spelling.getLast? with
  | none => exact ⟨[], fun q hq => by simp [hq]⟩
  | some c =>
    dsimp only
    split
    · exact ⟨p.spelling, fun q hq => by simp [hq]⟩
    · exact ⟨p.spelling ++ ['/'], fun q hq => by simp [hq]⟩

theorem join_append_name {t : Text} (h : IsName t) (front : Text) {q : Text}
    (hq : isAbsolute ⟨q⟩ = false) : join ⟨front ++ t⟩ q = ⟨front ++ t ++ '/' :: q⟩ := by
  have hlast : (front ++ t).getLast? = some (t.getLast h.ne_nil) := by
    rw [List.getLast?_append, List.getLast?_eq_some_getLast h.ne_nil, Option.some_or]
  -- A name does not end in a slash, so joining adds one.
  have hslash : isSlash (t.getLast h.ne_nil) = false := by
    have hne : t.getLast h.ne_nil ≠ '/' := fun e => h.no_slash (e ▸ List.getLast_mem h.ne_nil)
    simpa [isSlash] using hne
  simp [join, hq, hlast, hslash]

/-- A directory may be joined with a name before or after the name is joined with the rest, also if the
rest starts at the root and replaces everything. -/
theorem join_join_name (p : Path) {t : Text} (h : IsName t) (q : Text) :
    (p.join t).join q = p.join (join ⟨t⟩ q).spelling := by
  cases hq : isAbsolute ⟨q⟩ with
  | true => simp [join, hq]
  | false =>
    obtain ⟨front, hfront⟩ := p.exists_front
    have hname : join ⟨t⟩ q = ⟨t ++ '/' :: q⟩ := join_append_name h [] hq
    have hrest : isAbsolute ⟨t ++ '/' :: q⟩ = false := by
      have habsolute := h.not_isAbsolute
      cases t with
      | nil => exact absurd rfl h.ne_nil
      | cons c rest => exact habsolute
    rw [hfront t h.not_isAbsolute, join_append_name h front hq, hname, hfront _ hrest,
      List.append_assoc]

/-! ## 5. The last part -/

theorem getLast?_parts_append_slash {t : Text} (h : IsName t) (s : Text) :
    (parts ⟨s ++ '/' :: t⟩).getLast? = some (.name t) := by
  rw [parts_append_slash, h.pieces]
  simp [h.innerPart?]

/-- **A path ends in the name that it was joined with**, whatever stands before the name. -/
theorem getLast?_parts_join (p : Path) {t : Text} (h : IsName t) (s : Text) :
    (p.join (s ++ '/' :: t)).parts.getLast? = some (.name t) := by
  cases hq : isAbsolute ⟨s ++ '/' :: t⟩ with
  | true =>
    have hreplaced : p.join (s ++ '/' :: t) = ⟨s ++ '/' :: t⟩ := by simp [join, hq]
    rw [hreplaced]
    exact getLast?_parts_append_slash h s
  | false =>
    obtain ⟨front, hfront⟩ := p.exists_front
    rw [hfront _ hq, ← List.append_assoc]
    exact getLast?_parts_append_slash h (front ++ s)

end Path

end ErrorCatalog
