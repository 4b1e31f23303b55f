import Mathlib.Data.List.Chain
import ErrorCatalog.Source.Row
import ErrorCatalog.Proofs.Text.Pieces

/-!
# `ErrorCatalog/Proofs/Source/Lines.lean` — lines, written and read

Reading forgets which terminator a line had, so there is no one text that a list of lines comes from.
This file has the texts that do: `written` puts lines down, each with a terminator of its own choice,
and a last line without one.

Reading undoes writing, with one exception that no reader could get right: a line that ends in a lone
carriage return and is followed by an *empty* line that ends in a lone line feed. The two terminators
touch, and the text is the one in which they are a single terminator. `Apart` is that exception and
nothing else.

* `physicalLines_written` reads what was written.
* `exists_written` says that every text was written by someone, so reading loses nothing but the
  choice of terminators.
* `rowsFrom_eq` is where the numbers of rows come from: the place of the line among **all** lines.
-/

set_option autoImplicit false

namespace ErrorCatalog

/-! ## 1. Written lines -/

/-- Whether a text has no character that ends a line. -/
def Text.Unbroken (t : Text) : Prop := '\n' ∉ t ∧ '\r' ∉ t

instance (t : Text) : Decidable t.Unbroken := inferInstanceAs (Decidable (_ ∧ _))

@[simp] theorem Text.unbroken_nil : Text.Unbroken [] := ⟨List.not_mem_nil, List.not_mem_nil⟩

@[simp] theorem Text.unbroken_cons {c : Char} {t : Text} :
    Text.Unbroken (c :: t) ↔ (c ≠ '\n' ∧ c ≠ '\r') ∧ t.Unbroken := by
  simp only [Unbroken, List.mem_cons, not_or]
  constructor
  · rintro ⟨⟨hn, hnt⟩, hr, hrt⟩
    exact ⟨⟨Ne.symm hn, Ne.symm hr⟩, hnt, hrt⟩
  · rintro ⟨⟨hn, hr⟩, hnt, hrt⟩
    exact ⟨⟨Ne.symm hn, hnt⟩, Ne.symm hr, hrt⟩

@[simp] theorem Text.unbroken_append {t u : Text} :
    Text.Unbroken (t ++ u) ↔ t.Unbroken ∧ u.Unbroken := by
  simp only [Unbroken, List.mem_append, not_or]
  exact and_and_and_comm

theorem Text.unbroken_joined {separator : Text} (hseparator : separator.Unbroken)
    {texts : List Text} (h : ∀ t ∈ texts, t.Unbroken) : (joined separator texts).Unbroken := by
  constructor
  · intro hmem
    rcases mem_joined hmem with hmem | ⟨t, ht, hmem⟩
    · exact hseparator.1 hmem
    · exact (h t ht).1 hmem
  · intro hmem
    rcases mem_joined hmem with hmem | ⟨t, ht, hmem⟩
    · exact hseparator.2 hmem
    · exact (h t ht).2 hmem

/-- Lines with their terminators, and a last line without one. -/
def written (lines : List (Text × LineEnd)) (last : Text) : Text :=
  lines.flatMap (fun p => p.1 ++ p.2.text) ++ last

/-- The last line; there is none if nothing follows the last terminator. -/
def lastLine (last : Text) : List Text := if last = [] then [] else [last]

/-- Whether the terminators of two neighbouring lines are two terminators. -/
def Apart (p q : Text × LineEnd) : Prop :=
  ¬ (p.2 = .carriageReturn ∧ q.1 = [] ∧ q.2 = .lineFeed)

/-- Whether lines can be written so that they are read back. -/
structure Writable (lines : List (Text × LineEnd)) (last : Text) : Prop where
  unbroken : ∀ p ∈ lines, Text.Unbroken p.1
  unbroken_last : Text.Unbroken last
  apart : lines.IsChain Apart

theorem written_cons (line : Text) (ending : LineEnd) (lines : List (Text × LineEnd)) (last : Text) :
    written ((line, ending) :: lines) last = line ++ (ending.text ++ written lines last) := by
  simp [written]

theorem Writable.tail {p : Text × LineEnd} {lines : List (Text × LineEnd)} {last : Text}
    (h : Writable (p :: lines) last) : Writable lines last :=
  ⟨fun q hq => h.unbroken q (List.mem_cons_of_mem _ hq), h.unbroken_last, h.apart.tail⟩

/-- What follows a lone carriage return does not start with a line feed. -/
theorem Writable.head?_ne {line : Text} {lines : List (Text × LineEnd)} {last : Text}
    (h : Writable ((line, .carriageReturn) :: lines) last) :
    (written lines last).head? ≠ some '\n' := by
  cases lines with
  | nil =>
    intro hhead
    exact h.unbroken_last.1 (List.mem_of_mem_head? (by simpa [written] using hhead))
  | cons q rest =>
    obtain ⟨next, ending⟩ := q
    rw [written_cons]
    cases next with
    | nil =>
      have hapart : ending ≠ .lineFeed := fun e =>
        (List.isChain_cons_cons.mp h.apart).1 ⟨rfl, rfl, e⟩
      cases ending <;> simp_all [LineEnd.text]
    | cons c t =>
      have hc := Text.unbroken_cons.mp (h.unbroken (c :: t, ending) (by simp))
      simpa using hc.1.1

/-! ## 2. Reading -/

/-- The lines of a text with one more character in front of the first. -/
theorem physicalLines_cons {c : Char} (hn : c ≠ '\n') (hr : c ≠ '\r') (rest : Text) :
    physicalLines (c :: rest) =
      match physicalLines rest with
      | [] => [[c]]
      | line :: lines => (c :: line) :: lines := by
  rw [physicalLines]
  all_goals first | rfl | exact hn | exact hr | exact fun _ h => absurd h hr

theorem physicalLines_carriageReturn {rest : Text} (h : rest.head? ≠ some '\n') :
    physicalLines ('\r' :: rest) = [] :: physicalLines rest := by
  rw [physicalLines]
  rintro t rfl
  exact h rfl

/-- A line with its terminator is read as that line, if what follows does not add to the terminator. -/
theorem physicalLines_append (ending : LineEnd) {rest : Text}
    (h : ending = .carriageReturn → rest.head? ≠ some '\n') {line : Text} (hline : line.Unbroken) :
    physicalLines (line ++ (ending.text ++ rest)) = line :: physicalLines rest := by
  induction line with
  | nil =>
    cases ending with
    | lineFeed => rfl
    | carriageReturn => exact physicalLines_carriageReturn (h rfl)
    | both => rfl
  | cons c t ih =>
    obtain ⟨⟨hn, hr⟩, ht⟩ := Text.unbroken_cons.mp hline
    rw [List.cons_append, physicalLines_cons hn hr, ih ht]

/-- Characters without a terminator are one line, if there are any. -/
theorem physicalLines_of_unbroken {last : Text} (h : last.Unbroken) :
    physicalLines last = lastLine last := by
  induction last with
  | nil => rfl
  | cons c t ih =>
    obtain ⟨⟨hn, hr⟩, ht⟩ := Text.unbroken_cons.mp h
    rw [physicalLines_cons hn hr, ih ht]
    by_cases hnil : t = []
    · simp [lastLine, hnil]
    · simp [lastLine, hnil]

/-- **What was written is read back.** -/
theorem physicalLines_written {lines : List (Text × LineEnd)} {last : Text}
    (h : Writable lines last) :
    physicalLines (written lines last) = lines.map (·.1) ++ lastLine last := by
  induction lines with
  | nil => simpa [written] using physicalLines_of_unbroken h.unbroken_last
  | cons p lines ih =>
    obtain ⟨line, ending⟩ := p
    have hline : line.Unbroken := h.unbroken (line, ending) List.mem_cons_self
    have hrest : ending = .carriageReturn → (written lines last).head? ≠ some '\n' := by
      rintro rfl
      exact h.head?_ne
    rw [written_cons, physicalLines_append ending hrest hline, ih h.tail]
    rfl

/-! ## 3. Every text was written -/

theorem Writable.cons_line {ending : LineEnd} {lines : List (Text × LineEnd)} {last : Text}
    (h : Writable lines last)
    (happart : ending = .carriageReturn → (written lines last).head? ≠ some '\n') :
    Writable (([], ending) :: lines) last where
  unbroken p hp := by
    rcases List.mem_cons.mp hp with rfl | hp
    · exact Text.unbroken_nil
    · exact h.unbroken p hp
  unbroken_last := h.unbroken_last
  apart := by
    cases lines with
    | nil => exact List.isChain_singleton _
    | cons q rest =>
      refine List.isChain_cons_cons.mpr ⟨?_, h.apart⟩
      rintro ⟨rfl, hq, hlf⟩
      obtain ⟨next, following⟩ := q
      simp only at hq hlf
      subst hq hlf
      exact happart rfl rfl

/-- One more character, not a terminator, in front of a written text: it belongs to the first line,
or to the last if there is no other. -/
theorem Writable.cons_char {c : Char} (hn : c ≠ '\n') (hr : c ≠ '\r')
    {lines : List (Text × LineEnd)} {last : Text} (h : Writable lines last) :
    ∃ lines' last', Writable lines' last' ∧ written lines' last' = c :: written lines last := by
  cases lines with
  | nil =>
    refine ⟨[], c :: last, ⟨h.unbroken, ?_, h.apart⟩, rfl⟩
    exact Text.unbroken_cons.mpr ⟨⟨hn, hr⟩, h.unbroken_last⟩
  | cons p rest =>
    obtain ⟨line, ending⟩ := p
    refine ⟨(c :: line, ending) :: rest, last, ⟨fun q hq => ?_, h.unbroken_last, ?_⟩, ?_⟩
    · rcases List.mem_cons.mp hq with rfl | hq
      · exact Text.unbroken_cons.mpr ⟨⟨hn, hr⟩, h.unbroken _ List.mem_cons_self⟩
      · exact h.unbroken q (List.mem_cons_of_mem _ hq)
    · -- `Apart` does not look at the line before the terminator.
      cases rest with
      | nil => exact List.isChain_singleton _
      | cons q rest =>
        obtain ⟨happart, hrest⟩ := List.isChain_cons_cons.mp h.apart
        exact List.isChain_cons_cons.mpr ⟨happart, hrest⟩
    · simp only [written_cons, List.cons_append]

/-- **Every text was written**, by induction on the text, one terminator or one other character at a
time. -/
theorem exists_written (t : Text) : ∃ lines last, Writable lines last ∧ written lines last = t := by
  induction t using physicalLines.induct with
  | case1 => exact ⟨[], [], ⟨by simp, Text.unbroken_nil, .nil⟩, rfl⟩
  | case2 rest ih =>
    obtain ⟨lines, last, h, rfl⟩ := ih
    exact ⟨([], .lineFeed) :: lines, last, h.cons_line (by simp), by rw [written_cons]; rfl⟩
  | case3 rest ih =>
    obtain ⟨lines, last, h, rfl⟩ := ih
    exact ⟨([], .both) :: lines, last, h.cons_line (by simp), by rw [written_cons]; rfl⟩
  | case4 rest hrest ih =>
    obtain ⟨lines, last, h, rfl⟩ := ih
    refine ⟨([], .carriageReturn) :: lines, last, h.cons_line fun _ hhead => ?_, by
      rw [written_cons]; rfl⟩
    cases hw : written lines last with
    | nil => rw [hw] at hhead; cases hhead
    | cons c t =>
      rw [hw] at hhead
      obtain rfl : c = '\n' := by simpa using hhead
      exact hrest t hw
  | case5 c rest hn _ hr _ ih =>
    obtain ⟨lines, last, h, rfl⟩ := ih
    exact h.cons_char hn hr
  | case6 c rest hn _ hr _ _ _ ih =>
    obtain ⟨lines, last, h, rfl⟩ := ih
    exact h.cons_char hn hr

theorem Writable.unbroken_lines {lines : List (Text × LineEnd)} {last : Text}
    (h : Writable lines last) : ∀ l ∈ lines.map (·.1) ++ lastLine last, Text.Unbroken l := by
  intro l hl
  rcases List.mem_append.mp hl with hl | hl
  · obtain ⟨p, hp, rfl⟩ := List.mem_map.mp hl
    exact h.unbroken p hp
  · unfold lastLine at hl
    split at hl
    · cases hl
    · obtain rfl := List.mem_singleton.mp hl
      exact h.unbroken_last

/-- No line has a character that ends a line. -/
theorem unbroken_of_mem_physicalLines {t l : Text} (hl : l ∈ physicalLines t) : l.Unbroken := by
  obtain ⟨lines, last, h, rfl⟩ := exists_written t
  rw [physicalLines_written h] at hl
  exact h.unbroken_lines l hl

theorem mem_written_iff {c : Char} (hn : c ≠ '\n') (hr : c ≠ '\r') (lines : List (Text × LineEnd))
    (last : Text) :
    c ∈ written lines last ↔ ∃ l ∈ lines.map (·.1) ++ lastLine last, c ∈ l := by
  have hending : ∀ ending : LineEnd, c ∉ ending.text := by
    intro ending
    cases ending <;> simp [LineEnd.text, hn, hr]
  have hlast : c ∈ last ↔ ∃ l ∈ lastLine last, c ∈ l := by
    unfold lastLine
    split
    · rename_i hnil
      simp [hnil]
    · simp
  induction lines with
  | nil => exact hlast
  | cons p lines ih =>
    obtain ⟨line, ending⟩ := p
    rw [written_cons, List.mem_append, List.mem_append, or_iff_right (hending ending),
      List.map_cons, List.cons_append, List.exists_mem_cons_iff]
    exact or_congr_right ih

/-- No character is lost but those that end lines. -/
theorem ends_or_exists_mem_physicalLines {c : Char} {t : Text} (hc : c ∈ t) :
    (c = '\n' ∨ c = '\r') ∨ ∃ l ∈ physicalLines t, c ∈ l := by
  obtain ⟨lines, last, h, rfl⟩ := exists_written t
  rw [physicalLines_written h]
  by_cases hends : c = '\n' ∨ c = '\r'
  · exact Or.inl hends
  · obtain ⟨hn, hr⟩ := not_or.mp hends
    exact Or.inr ((mem_written_iff hn hr lines last).mp hc)

theorem mem_of_mem_physicalLines {t l : Text} (hl : l ∈ physicalLines t) {c : Char} (hc : c ∈ l) :
    c ∈ t ∧ ¬ (c = '\n' ∨ c = '\r') := by
  obtain ⟨hn, hr⟩ := unbroken_of_mem_physicalLines hl
  have hcn : c ≠ '\n' := fun e => hn (e ▸ hc)
  have hcr : c ≠ '\r' := fun e => hr (e ▸ hc)
  obtain ⟨lines, last, h, rfl⟩ := exists_written t
  rw [physicalLines_written h] at hl
  exact ⟨(mem_written_iff hcn hcr lines last).mpr ⟨l, hl, hc⟩, not_or.mpr ⟨hcn, hcr⟩⟩

/-! ## 4. Rows -/

/-- The rows of lines: one for each line that is not empty, with the number of the line. -/
theorem rowsFrom_eq (n : Nat) (lines : List Text) :
    rowsFrom n lines =
      ((lines.zipIdx n).filter (·.1 ≠ [])).map fun p => ⟨p.2, splitFields p.1⟩ := by
  induction lines generalizing n with
  | nil => rfl
  | cons line lines ih =>
    cases line with
    | nil => simpa [rowsFrom] using ih (n + 1)
    | cons c t => simpa [rowsFrom] using ih (n + 1)

/-- A line without fields is empty, or a byte order mark and nothing else. -/
theorem splitFields_eq_nil_iff (line : Text) :
    splitFields line = [] ↔ line = [] ∨ line = [byteOrderMark] := by
  have hmark : withoutMark line = [] ↔ line = [] ∨ line = [byteOrderMark] := by
    cases line with
    | nil => simp [withoutMark]
    | cons c rest =>
      by_cases hc : c = byteOrderMark
      · simp [withoutMark, hc]
      · simp [withoutMark, hc]
  rw [← hmark, splitFields]
  split
  · rename_i h
    exact iff_of_true rfl h
  · rename_i h
    exact iff_of_false (Text.pieces_ne_nil _ _) h

/-- A character of a field is a character of the line. -/
theorem mem_of_mem_splitFields {line field : Text} (hfield : field ∈ splitFields line) :
    ∀ c ∈ field, c ∈ line := by
  have hmark : ∀ c ∈ withoutMark line, c ∈ line := by
    intro c hc
    unfold withoutMark at hc
    split at hc
    · cases hc
    · split at hc
      · exact List.mem_cons_of_mem _ hc
      · exact hc
  intro c hc
  unfold splitFields at hfield
  split at hfield
  · cases hfield
  · exact hmark c (Text.of_mem_pieces hfield c hc).1

/-- No field has a character that ends a line. -/
theorem unbroken_of_mem_fields {name text : Text} {row : Row}
    (hrow : row ∈ (Source.ofText name text).rows) : ∀ field ∈ row.fields, field.Unbroken := by
  rw [Source.ofText, rowsFrom_eq] at hrow
  obtain ⟨⟨line, n⟩, hmem, rfl⟩ := List.mem_map.mp hrow
  have hline : line.Unbroken :=
    unbroken_of_mem_physicalLines (List.fst_mem_of_mem_zipIdx (List.mem_filter.mp hmem).1)
  intro field hfield
  have hfrom := mem_of_mem_splitFields hfield
  exact ⟨fun h => hline.1 (hfrom _ h), fun h => hline.2 (hfrom _ h)⟩

/-- **Lines are exact in both directions.** Every text is its lines, each with a terminator, but for
a last line that may have none if it is not empty; and lines that are written with terminators that
do not touch are read back as they are, each line that is not empty as a row with its place among all
lines. -/
theorem physicalLines_exact :
    (∀ t, (∀ l ∈ physicalLines t, '\n' ∉ l ∧ '\r' ∉ l) ∧
      ∃ lines last, written lines last = t ∧
        physicalLines t = lines.map (·.1) ++ lastLine last) ∧
    ∀ lines last, (∀ p ∈ lines, '\n' ∉ p.1 ∧ '\r' ∉ p.1) → '\n' ∉ last ∧ '\r' ∉ last →
      lines.IsChain Apart →
      physicalLines (written lines last) = lines.map (·.1) ++ lastLine last ∧
      ∀ name, (Source.ofText name (written lines last)).rows =
        (((lines.map (·.1) ++ lastLine last).zipIdx 1).filter (·.1 ≠ [])).map
          fun p => ⟨p.2, splitFields p.1⟩ := by
  refine ⟨fun t => ⟨fun l hl => unbroken_of_mem_physicalLines hl, ?_⟩, ?_⟩
  · obtain ⟨lines, last, h, rfl⟩ := exists_written t
    exact ⟨lines, last, rfl, physicalLines_written h⟩
  · intro lines last hlines hlast hchain
    have h : Writable lines last := ⟨hlines, hlast, hchain⟩
    have hread := physicalLines_written h
    refine ⟨hread, fun name => ?_⟩
    rw [Source.ofText, rowsFrom_eq, hread]

end ErrorCatalog
