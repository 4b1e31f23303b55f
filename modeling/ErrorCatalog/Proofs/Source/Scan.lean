import ErrorCatalog.Proofs.Source.Lines
import ErrorCatalog.Proofs.Text.Bytes

/-!
# `ErrorCatalog/Proofs/Source/Scan.lean` — lines found by their bytes

The lines of a text can be found without decoding it. A scan goes over the bytes with two offsets, the one
at which the line began and the one it has come to. At a terminator the line is the slice between the two,
and the scan goes on behind the terminator (`LineScan.next?`).

A slice is not always there. It fails if its offsets are in the wrong order or past the end, and it
fails if one of them is inside a character (`Text.slice?`). A scan that goes on byte by byte does come to such
offsets, so what keeps it from slicing there is a fact about terminators.

* `Text.exists_append_of_getElem?`: where a byte below 128 stands, one character ends and another begins.
* `LineScan.Sound` is what holds before each step. It says of the index only that no line ended since the
  start, for the index itself need not be a boundary.
* `LineScan.Sound.exists_next` is one step, `LineScan.Sound.exists_run` a run. The lines at the end of it
  are those of `physicalLines`.
-/

set_option autoImplicit false

namespace ErrorCatalog

/-! ## 1. Slices -/

namespace Text

theorem bytes_append (t u : Text) : bytes (t ++ u) = t.bytes ++ u.bytes := List.flatMap_append

theorem length_bytes_cons_pos (c : Char) (t : Text) : 0 < (bytes (c :: t)).length := by
  rw [List.length_pos_iff, bytes_cons]
  exact List.append_ne_nil_of_left_ne_nil String.utf8EncodeChar_ne_nil _

/-- Whether an offset is that of the first byte of a character, or the end. -/
def IsBoundary (t : Text) (n : Nat) : Prop :=
  n = t.bytes.length ∨ ∃ h : n < t.bytes.length, t.bytes[n].IsUTF8FirstByte

instance (t : Text) (n : Nat) : Decidable (t.IsBoundary n) := inferInstanceAs (Decidable (_ ∨ _))

/-- What stands between two offsets; `none` if they are out of order, or one is no boundary. -/
def slice? (t : Text) (start stop : Nat) : Option Text :=
  if start ≤ stop ∧ t.IsBoundary start ∧ t.IsBoundary stop then
    decode? ((t.bytes.drop start).take (stop - start)).toByteArray
  else none

theorem isBoundary_append (front back : Text) : (front ++ back).IsBoundary front.bytes.length := by
  cases back with
  | nil => exact .inl (by rw [List.append_nil])
  | cons c rest =>
    have hfirst : 0 < (String.utf8EncodeChar c).length := by
      rw [String.length_utf8EncodeChar]
      exact c.utf8Size_pos
    have hlt : front.bytes.length < (bytes (front ++ c :: rest)).length := by
      rw [bytes_append, List.length_append]
      exact Nat.lt_add_of_pos_right (length_bytes_cons_pos c rest)
    refine .inr ⟨hlt, ?_⟩
    simp only [bytes_append, bytes_cons, List.getElem_append_right (Nat.le_refl _), Nat.sub_self,
      List.getElem_append_left hfirst]
    exact UInt8.isUTF8FirstByte_getElem_zero_utf8EncodeChar

/-- A slice between boundaries is what stands there. -/
theorem slice?_append (front middle back : Text) :
    (front ++ (middle ++ back)).slice? front.bytes.length (front.bytes.length + middle.bytes.length) =
      some middle := by
  have hstop := isBoundary_append (front ++ middle) back
  rw [List.append_assoc, bytes_append, List.length_append] at hstop
  rw [slice?, if_pos ⟨Nat.le_add_right _ _, isBoundary_append front _, hstop⟩, bytes_append,
    List.drop_left, Nat.add_sub_cancel_left, bytes_append, List.take_left]
  exact decode?_encode middle

/-- A slice out of the middle of a character, and one the wrong way round. -/
example : slice? "a日".toList 0 2 = none ∧ slice? "a日".toList 1 0 = none := by decide

/-- **Where an ASCII byte stands** the text is cut between two characters, by induction on the text. -/
theorem exists_append_of_bytes_eq {a : Char} (ha : a.toNat < 128) {t : Text} {before after : List UInt8}
    (h : t.bytes = before ++ UInt8.ofNat a.toNat :: after) :
    ∃ front back, t = front ++ a :: back ∧ front.bytes = before ∧ bytes back = after := by
  induction t generalizing before with
  | nil => exact absurd h.symm (List.append_ne_nil_of_right_ne_nil _ (List.cons_ne_nil _ _))
  | cons c rest ih =>
    rw [bytes_cons] at h
    by_cases hc : c = a
    · subst hc
      rw [utf8EncodeChar_of_lt ha, List.singleton_append] at h
      cases before with
      | nil => exact ⟨[], rest, rfl, rfl, (List.cons.inj h).2⟩
      | cons b before =>
        obtain ⟨hb, hrest⟩ := List.cons.inj h
        obtain ⟨front, back, rfl, rfl, hback⟩ := ih hrest
        refine ⟨c :: front, back, rfl, ?_, hback⟩
        rw [bytes_cons, utf8EncodeChar_of_lt ha, hb, List.singleton_append]
    · -- The byte is not one of this character, so the character is in front of it.
      have hnot : UInt8.ofNat a.toNat ∉ String.utf8EncodeChar c := mt (mem_utf8EncodeChar_iff ha c).mp hc
      obtain ⟨more, rfl, hrest⟩ | ⟨more, henc, htail⟩ := List.append_eq_append_iff.mp h
      · obtain ⟨front, back, rfl, rfl, hback⟩ := ih hrest
        exact ⟨c :: front, back, rfl, bytes_cons c front, hback⟩
      · cases more with
        | nil =>
          rw [List.append_nil] at henc
          have hrest : Text.bytes rest = [] ++ UInt8.ofNat a.toNat :: after := htail.symm
          obtain ⟨front, back, rfl, hfront, hback⟩ := ih hrest
          exact ⟨c :: front, back, rfl, by rw [bytes_cons, hfront, henc, List.append_nil], hback⟩
        | cons b more =>
          rw [(List.cons.inj htail).1, henc] at hnot
          exact absurd (List.mem_append_right _ List.mem_cons_self) hnot

/-- The text cut at the ASCII byte with the given offset. -/
theorem exists_append_of_getElem? {a : Char} (ha : a.toNat < 128) {t : Text} {n : Nat}
    (h : t.bytes[n]? = some (UInt8.ofNat a.toNat)) :
    ∃ front back, t = front ++ a :: back ∧ front.bytes.length = n ∧
      bytes back = t.bytes.drop (n + 1) := by
  obtain ⟨hn, hbyte⟩ := List.getElem?_eq_some_iff.mp h
  have hcut : t.bytes = t.bytes.take n ++ UInt8.ofNat a.toNat :: t.bytes.drop (n + 1) := by
    rw [← hbyte, ← List.drop_eq_getElem_cons hn, List.take_append_drop]
  obtain ⟨front, back, ht, hfront, hback⟩ := exists_append_of_bytes_eq ha hcut
  exact ⟨front, back, ht, by rw [hfront, List.length_take_of_le (Nat.le_of_lt hn)], hback⟩

end Text

/-! ## 2. Terminators -/

/-- How many bytes the terminator at an offset has, if one is there. -/
def terminatorWidth? (bytes : List UInt8) (n : Nat) : Option Nat :=
  if bytes[n]? = some 0x0A then some 1
  else if bytes[n]? = some 0x0D then some (if bytes[n + 1]? = some 0x0A then 2 else 1)
  else none

theorem pos_of_terminatorWidth? {bytes : List UInt8} {n width : Nat}
    (h : terminatorWidth? bytes n = some width) : 0 < width := by
  unfold terminatorWidth? at h
  split at h
  · cases h
    exact Nat.one_pos
  · split at h
    · cases h
      split
      · exact Nat.two_pos
      · exact Nat.one_pos
    · cases h

theorem terminatorWidth?_append (front back : List UInt8) (n : Nat) :
    terminatorWidth? (front ++ back) (front.length + n) = terminatorWidth? back n := by
  have hget : ∀ m, (front ++ back)[front.length + m]? = back[m]? := fun m => by
    rw [List.getElem?_append_right (Nat.le_add_right _ _), Nat.add_sub_cancel_left]
  simp only [terminatorWidth?, Nat.add_assoc, hget]

/-- **A terminator among the bytes** is a terminator of the text, as long as that. -/
theorem exists_ending_of_terminatorWidth? {t : Text} {n width : Nat}
    (h : terminatorWidth? t.bytes n = some width) :
    ∃ (line : Text) (ending : LineEnd) (rest : Text), t = line ++ (ending.text ++ rest) ∧
      line.bytes.length = n ∧ ending.text.bytes.length = width ∧
      (ending = .carriageReturn → rest.head? ≠ some '\n') := by
  unfold terminatorWidth? at h
  split at h
  · rename_i hfeed
    cases h
    obtain ⟨line, rest, ht, hline, -⟩ :=
      Text.exists_append_of_getElem? (by decide : '\n'.toNat < 128) hfeed
    exact ⟨line, .lineFeed, rest, ht, hline, rfl, nofun⟩
  · split at h
    · rename_i hreturn
      obtain ⟨line, rest, ht, hline, hrest⟩ :=
        Text.exists_append_of_getElem? (by decide : '\r'.toNat < 128) hreturn
      -- What the next byte says of the text is what the first byte says of the rest.
      have hnext : t.bytes[n + 1]? = (Text.bytes rest)[0]? := by
        rw [hrest, List.getElem?_drop, Nat.add_zero]
      rw [hnext] at h
      cases h
      split
      · rename_i hfeed
        obtain ⟨front, back, hback, hfront, -⟩ :=
          Text.exists_append_of_getElem? (by decide : '\n'.toNat < 128) hfeed
        cases front with
        | nil =>
          subst hback
          exact ⟨line, .both, back, ht, hline, rfl, nofun⟩
        | cons c front =>
          exact absurd hfront (Nat.ne_of_gt (Text.length_bytes_cons_pos c front))
      · rename_i hfeed
        refine ⟨line, .carriageReturn, rest, ht, hline, rfl, fun _ hhead => hfeed ?_⟩
        obtain ⟨back, rfl⟩ := List.head?_eq_some_iff.mp hhead
        rfl
    · cases h

/-- A text without a terminator among its bytes is unbroken. -/
theorem unbroken_of_terminatorWidth? {t : Text} (more : List UInt8)
    (h : ∀ n < t.bytes.length, terminatorWidth? (t.bytes ++ more) n = none) : t.Unbroken := by
  have hnone : ∀ n < t.bytes.length, t.bytes[n]? ≠ some 0x0A ∧ t.bytes[n]? ≠ some 0x0D := by
    intro n hn
    have hwidth := h n hn
    rw [terminatorWidth?, List.getElem?_append_left hn] at hwidth
    constructor
    · intro hfeed
      rw [if_pos hfeed] at hwidth
      cases hwidth
    · intro hreturn
      rw [if_neg (by rw [hreturn]; decide), if_pos hreturn] at hwidth
      cases hwidth
  have hbyte : ∀ c ∈ t, c.toNat < 128 →
      ∃ n < t.bytes.length, t.bytes[n]? = some (UInt8.ofNat c.toNat) := by
    intro c hc hlt
    have hmem : UInt8.ofNat c.toNat ∈ t.bytes :=
      List.mem_flatMap.mpr ⟨c, hc, (mem_utf8EncodeChar_iff hlt c).mpr rfl⟩
    obtain ⟨n, hn, hget⟩ := List.mem_iff_getElem.mp hmem
    exact ⟨n, hn, by rw [List.getElem?_eq_getElem hn, hget]⟩
  constructor
  · intro hc
    obtain ⟨n, hn, hget⟩ := hbyte _ hc (by decide)
    exact (hnone n hn).1 hget
  · intro hc
    obtain ⟨n, hn, hget⟩ := hbyte _ hc (by decide)
    exact (hnone n hn).2 hget

/-! ## 3. Scans -/

/-- A scan under way: where the line began, where the scan is, and the lines before. -/
structure LineScan where
  start : Nat
  index : Nat
  lines : List Text

namespace LineScan

def begun : LineScan := ⟨0, 0, []⟩

/-- One step; `none` if a line ends and cannot be sliced. -/
def next? (t : Text) (s : LineScan) : Option LineScan :=
  match terminatorWidth? t.bytes s.index with
  | some width =>
    (t.slice? s.start s.index).map fun line =>
      ⟨s.index + width, s.index + width, s.lines ++ [line]⟩
  | none => some { s with index := s.index + 1 }

theorem index_lt_of_next? {t : Text} {s after : LineScan} (h : s.next? t = some after) :
    s.index < after.index := by
  unfold next? at h
  split at h
  · rename_i width hwidth
    obtain ⟨line, -, rfl⟩ := Option.map_eq_some_iff.mp h
    exact Nat.lt_add_of_pos_right (pos_of_terminatorWidth? hwidth)
  · cases h
    exact Nat.lt_succ_self _

/-- All steps, up to the end of the bytes. -/
def run? (t : Text) (s : LineScan) : Option LineScan :=
  if s.index < t.bytes.length then
    match _ : s.next? t with
    | some after => run? t after
    | none => none
  else some s
termination_by t.bytes.length - s.index
decreasing_by exact Nat.sub_lt_sub_left ‹_› (index_lt_of_next? ‹_›)

/-- The lines of a text. What follows the last terminator is one more, if it is not empty. -/
def lines? (t : Text) : Option (List Text) :=
  (begun.run? t).bind fun s =>
    if s.start < t.bytes.length then
      (t.slice? s.start t.bytes.length).map fun last => s.lines ++ [last]
    else some s.lines

/-- The scans that a run comes to. -/
inductive Reached (t : Text) : LineScan → Prop where
  | begun : Reached t begun
  | next {s after : LineScan} :
      Reached t s → s.index < t.bytes.length → s.next? t = some after → Reached t after

/-- What holds of every scan under way. -/
structure Sound (t : Text) (s : LineScan) : Prop where
  start_le : s.start ≤ s.index
  index_le : s.index ≤ t.bytes.length
  unended : ∀ n, s.start ≤ n → n < s.index → terminatorWidth? t.bytes n = none
  divided : ∃ front back, t = front ++ back ∧ front.bytes.length = s.start ∧
    physicalLines t = s.lines ++ physicalLines back

theorem sound_begun (t : Text) : begun.Sound t :=
  ⟨Nat.le_refl _, Nat.zero_le _, fun _ _ h => absurd h (Nat.not_lt_zero _), [], t, rfl, rfl, rfl⟩

section Sound

variable {t : Text} {s : LineScan} (hs : s.Sound t)
include hs

theorem Sound.isBoundary_start : t.IsBoundary s.start := by
  obtain ⟨front, back, rfl, hfront, -⟩ := hs.divided
  exact hfront ▸ Text.isBoundary_append front back

/-- What stands between start and index, if it is whole characters, has no terminator. -/
theorem Sound.unbroken {front line back : Text} (ht : t = front ++ (line ++ back))
    (hfront : front.bytes.length = s.start) (hline : s.start + line.bytes.length = s.index) :
    line.Unbroken := by
  refine unbroken_of_terminatorWidth? back.bytes fun n hn => ?_
  have hnone := hs.unended (s.start + n) (Nat.le_add_right _ _) (by omega)
  rwa [ht, Text.bytes_append, ← hfront, terminatorWidth?_append, Text.bytes_append] at hnone

/-- **Where a line ends**, the index is a boundary, and the slice is the next line of the text. -/
theorem Sound.exists_line {width : Nat} (hwidth : terminatorWidth? t.bytes s.index = some width) :
    ∃ line, t.IsBoundary s.index ∧ t.slice? s.start s.index = some line ∧
      Sound t ⟨s.index + width, s.index + width, s.lines ++ [line]⟩ := by
  obtain ⟨front, back, rfl, hfront, hlines⟩ := hs.divided
  have hindex : s.index = front.bytes.length + (s.index - s.start) := by
    have := hs.start_le
    omega
  have hending := hwidth
  rw [hindex, Text.bytes_append, terminatorWidth?_append] at hending
  obtain ⟨line, ending, rest, rfl, hline, rfl, hreturn⟩ := exists_ending_of_terminatorWidth? hending
  have hstop : s.index = front.bytes.length + line.bytes.length := by rw [hline, ← hindex]
  have hunbroken : line.Unbroken := hs.unbroken rfl hfront (by omega)
  have hdivided : front ++ (line ++ (ending.text ++ rest)) = (front ++ line ++ ending.text) ++ rest := by
    simp only [List.append_assoc]
  have hafter : (Text.bytes (front ++ line ++ ending.text)).length =
      s.index + ending.text.bytes.length := by
    simp only [Text.bytes_append, List.length_append, hstop]
  refine ⟨line, ?_, ?_, Nat.le_refl _, ?_, fun n hle hlt => absurd hle (Nat.not_le_of_lt hlt),
    front ++ line ++ ending.text, rest, hdivided, hafter, ?_⟩
  · have hboundary := Text.isBoundary_append (front ++ line) (ending.text ++ rest)
    rwa [List.append_assoc, Text.bytes_append, List.length_append, ← hstop] at hboundary
  · rw [← hfront, hstop, Text.slice?_append]
  · show s.index + ending.text.bytes.length ≤ _
    rw [hdivided, Text.bytes_append (front ++ line ++ ending.text), List.length_append, hafter]
    exact Nat.le_add_right _ _
  · rw [hlines, physicalLines_append ending hreturn hunbroken, List.append_assoc, List.singleton_append]

/-- **One step** of a scan that is not at the end succeeds and keeps what holds of it. -/
theorem Sound.exists_next (hlt : s.index < t.bytes.length) :
    ∃ after, s.next? t = some after ∧ after.Sound t := by
  unfold next?
  cases hwidth : terminatorWidth? t.bytes s.index with
  | some width =>
    obtain ⟨line, -, hslice, hafter⟩ := hs.exists_line hwidth
    exact ⟨_, by rw [hslice]; rfl, hafter⟩
  | none =>
    refine ⟨_, rfl, Nat.le_succ_of_le hs.start_le, hlt, fun n hle hn => ?_, hs.divided⟩
    obtain hn | rfl := Nat.lt_succ_iff_lt_or_eq.mp hn
    · exact hs.unended n hle hn
    · exact hwidth

/-- **A run** succeeds and comes to the end, by induction on what is left. -/
theorem Sound.exists_run (hreached : Reached t s) :
    ∃ last, s.run? t = some last ∧ Reached t last ∧ last.Sound t ∧ last.index = t.bytes.length := by
  induction hleft : t.bytes.length - s.index using Nat.strongRecOn generalizing s with
  | ind left ih =>
    rw [run?]
    split
    · rename_i hlt
      obtain ⟨after, hafter, hsound⟩ := hs.exists_next hlt
      have hindex := index_lt_of_next? hafter
      have hrun := ih _ (by omega) hsound (.next hreached hlt hafter) rfl
      split
      · rename_i found hfound
        rw [hafter] at hfound
        cases hfound
        exact hrun
      · rename_i hnone
        rw [hafter] at hnone
        cases hnone
    · rename_i hge
      exact ⟨s, rfl, hreached, hs, Nat.le_antisymm hs.index_le (Nat.le_of_not_lt hge)⟩

/-- At the end the last line is what follows the last terminator. -/
theorem Sound.last_eq (hend : s.index = t.bytes.length) :
    (if s.start < t.bytes.length then
      (t.slice? s.start t.bytes.length).map fun last => s.lines ++ [last]
    else some s.lines) = some (physicalLines t) := by
  obtain ⟨front, back, ht, hfront, hlines⟩ := hs.divided
  have hlength : t.bytes.length = s.start + back.bytes.length := by
    rw [ht, Text.bytes_append, List.length_append, hfront]
  have htext : t = front ++ (back ++ []) := by rw [ht, List.append_nil]
  have hunbroken : back.Unbroken := hs.unbroken htext hfront (by omega)
  have hslice := Text.slice?_append front back []
  rw [← htext, hfront, ← hlength] at hslice
  rw [hslice, hlines, physicalLines_of_unbroken hunbroken, lastLine]
  cases back with
  | nil =>
    have hnot : ¬ s.start < t.bytes.length := by
      rw [hlength]
      exact Nat.lt_irrefl _
    rw [if_neg hnot, if_pos rfl, List.append_nil]
  | cons c rest =>
    have hpos := Text.length_bytes_cons_pos c rest
    rw [if_pos (by omega), if_neg (List.cons_ne_nil _ _), Option.map_some]

end Sound

theorem Reached.sound {t : Text} {s : LineScan} (h : Reached t s) : s.Sound t := by
  induction h with
  | begun => exact sound_begun t
  | next _ hlt hafter ih =>
    obtain ⟨after, hnext, hsound⟩ := ih.exists_next hlt
    rw [hafter] at hnext
    cases hnext
    exact hsound

/-- **A scan of bytes never slices badly.** Wherever it is, start and index are in order and inside the
text, the start is a boundary, and the index is one if a line ends there; so the next step succeeds, and
it moves the index forward. The run stops with the index at the end of the bytes, from where the last line
can be sliced as well, and the lines are those of the text. -/
theorem slices_at_boundaries (t : Text) :
    (∀ s, Reached t s →
      s.start ≤ s.index ∧ s.index ≤ t.bytes.length ∧ t.IsBoundary s.start ∧
      (terminatorWidth? t.bytes s.index ≠ none → t.IsBoundary s.index) ∧
      (s.index < t.bytes.length → ∃ after, s.next? t = some after ∧ s.index < after.index)) ∧
    (∃ last, begun.run? t = some last ∧ Reached t last ∧ last.index = t.bytes.length ∧
      t.IsBoundary last.start ∧ t.IsBoundary t.bytes.length) ∧
    lines? t = some (physicalLines t) := by
  obtain ⟨last, hrun, hreached, hsound, hend⟩ := (sound_begun t).exists_run .begun
  refine ⟨fun s h => ?_, ⟨last, hrun, hreached, hend, hsound.isBoundary_start, .inl rfl⟩, ?_⟩
  · refine ⟨h.sound.start_le, h.sound.index_le, h.sound.isBoundary_start, fun hne => ?_, fun hlt => ?_⟩
    · obtain ⟨width, hwidth⟩ := Option.ne_none_iff_exists'.mp hne
      obtain ⟨line, hboundary, -⟩ := h.sound.exists_line hwidth
      exact hboundary
    · obtain ⟨after, hnext, -⟩ := h.sound.exists_next hlt
      exact ⟨after, hnext, index_lt_of_next? hnext⟩
  · rw [lines?, hrun]
    exact hsound.last_eq hend

example : lines? "日\r\n\rä".toList = some ["日".toList, [], "ä".toList] := by cbv

end LineScan

end ErrorCatalog
