import Mathlib.Data.List.Induction
import Mathlib.Data.List.TakeWhile
import ErrorCatalog.Text.Blank
import ErrorCatalog.Proofs.Text.Case
import ErrorCatalog.Proofs.Text.Pieces

/-!
# `ErrorCatalog/Proofs/Text/Words.lean` — the words of a text

A text is blanks and words in turns: `SplitsInto` says so without cutting anything, by what stands
between what. There is one way to see a text like that, and `Text.words` finds it (`splitsInto_iff`).
So what a change does to the words of a text can be shown on the blanks and the words one by one.

The change that matters here is upper case. It leaves blanks alone and makes none out of anything else
(`upper_of_isBlank`, `not_isBlank_of_mem_upper`), and no character disappears under it
(`upper_ne_nil`). That is all there is to `words_toUpper`: words can be upper-cased before they are
found or after.
-/

set_option autoImplicit false

namespace ErrorCatalog

namespace Text

/-! ## 1. Blanks and words in turns -/

/-- Blanks, and words with blanks around them. A word ends where a blank stands or the text ends. -/
inductive SplitsInto : Text → List Text → Prop
  | blanks {gap : Text} (hgap : ∀ c ∈ gap, isBlank c = true) : SplitsInto gap []
  | word {gap word rest : Text} {words : List Text} (hgap : ∀ c ∈ gap, isBlank c = true)
    (hne : word ≠ []) (hword : ∀ c ∈ word, isBlank c = false)
    (hrest : ∀ c ∈ rest.head?, isBlank c = true) (h : SplitsInto rest words) :
    SplitsInto (gap ++ word ++ rest) (word :: words)

/-- Cutting at a blank is cutting what stands before it and what stands after it. -/
theorem words_append_cons {c : Char} (hc : isBlank c = true) (t u : Text) :
    words (t ++ c :: u) = words t ++ words u := by
  rw [words, pieces_append_cons hc, List.filter_append]
  rfl

/-- A blank at the front is in no word. -/
theorem words_cons {c : Char} (hc : isBlank c = true) (t : Text) : words (c :: t) = words t :=
  words_append_cons hc [] t

theorem words_blanks_append {gap : Text} (hgap : ∀ c ∈ gap, isBlank c = true) (t : Text) :
    words (gap ++ t) = words t := by
  induction gap with
  | nil => rfl
  | cons c gap ih =>
    rw [List.cons_append, words_cons (hgap c List.mem_cons_self)]
    exact ih fun d hd => hgap d (List.mem_cons_of_mem _ hd)

theorem words_of_forall_isBlank {gap : Text} (hgap : ∀ c ∈ gap, isBlank c = true) :
    words gap = [] := by
  rw [← List.append_nil gap, words_blanks_append hgap]
  rfl

theorem words_append_blanks (t : Text) {gap : Text} (hgap : ∀ c ∈ gap, isBlank c = true) :
    words (t ++ gap) = words t := by
  cases gap with
  | nil => rw [List.append_nil]
  | cons c gap =>
    rw [words_append_cons (hgap c List.mem_cons_self),
      words_of_forall_isBlank fun d hd => hgap d (List.mem_cons_of_mem _ hd), List.append_nil]

theorem words_of_forall_not_isBlank {word : Text} (hne : word ≠ [])
    (hword : ∀ c ∈ word, isBlank c = false) : words word = [word] := by
  rw [words, pieces_of_forall_not hword]
  simp [hne]

/-- A word has a character, and none of its characters is blank. -/
theorem of_mem_words {t word : Text} (h : word ∈ words t) :
    word ≠ [] ∧ ∀ c ∈ word, c ∈ t ∧ isBlank c = false := by
  obtain ⟨hpiece, hne⟩ := List.mem_filter.mp h
  exact ⟨by simpa using hne, of_mem_pieces hpiece⟩

theorem words_eq_nil_iff {t : Text} : words t = [] ↔ ∀ c ∈ t, isBlank c = true := by
  refine ⟨fun h c hc => ?_, words_of_forall_isBlank⟩
  cases hblank : isBlank c with
  | true => rfl
  | false =>
    obtain ⟨piece, hpiece, hmem⟩ := exists_mem_pieces hblank hc
    have hword : piece ∈ words t := List.mem_filter.mpr ⟨hpiece, by simpa using List.ne_nil_of_mem hmem⟩
    rw [h] at hword
    cases hword

theorem SplitsInto.words_eq {t : Text} {ws : List Text} (h : t.SplitsInto ws) : words t = ws := by
  induction h with
  | blanks hgap => exact words_of_forall_isBlank hgap
  | @word gap word rest ws hgap hne hword hrest _ ih =>
    rw [List.append_assoc, words_blanks_append hgap]
    cases rest with
    | nil => rw [List.append_nil, words_of_forall_not_isBlank hne hword, ← ih]; rfl
    | cons c rest =>
      -- The blank after the word is where it is cut off.
      have hc : isBlank c = true := hrest c rfl
      rw [words_append_cons hc, words_of_forall_not_isBlank hne hword, ← ih, words_cons hc]
      rfl

/-- What a scan stops at is not what it passes over. -/
theorem not_of_mem_head?_dropWhile {p : Char → Bool} {t : Text} :
    ∀ c ∈ (t.dropWhile p).head?, p c = false := by
  intro c hc
  have h := List.head?_dropWhile_not p t
  rwa [Option.mem_def.mp hc] at h

/-- Every text is blanks and words in turns, by induction on its length: the blanks at its start and
the word after them are taken off. -/
theorem exists_splitsInto (t : Text) : ∃ ws, t.SplitsInto ws := by
  induction hlength : t.length using Nat.strongRecOn generalizing t with
  | ind n ih =>
    have hgap : ∀ c ∈ t.takeWhile isBlank, isBlank c = true := fun c => List.mem_takeWhile_imp
    have htext : t.takeWhile isBlank ++ t.dropWhile isBlank = t := List.takeWhile_append_dropWhile
    cases hstart : t.dropWhile isBlank with
    | nil =>
      rw [hstart, List.append_nil] at htext
      exact ⟨[], htext ▸ .blanks hgap⟩
    | cons c more =>
      let word := (c :: more).takeWhile (!isBlank ·)
      let rest := (c :: more).dropWhile (!isBlank ·)
      have hsplit : word ++ rest = c :: more := List.takeWhile_append_dropWhile
      have hc : isBlank c = false := not_of_mem_head?_dropWhile c (by rw [hstart]; rfl)
      have hne : word ≠ [] := by simp [word, hc]
      have hword : ∀ d ∈ word, isBlank d = false := fun d hd => by
        simpa using List.mem_takeWhile_imp hd
      have hrest : ∀ d ∈ rest.head?, isBlank d = true := fun d hd => by
        simpa using not_of_mem_head?_dropWhile d hd
      have hshorter : rest.length < n := by
        have hlengths := congrArg List.length htext
        have hwords := congrArg List.length hsplit
        have := List.length_pos_iff.mpr hne
        simp only [List.length_append, hstart] at hlengths hwords
        omega
      obtain ⟨ws, hws⟩ := ih rest.length hshorter rest rfl
      have htaken := SplitsInto.word hgap hne hword hrest hws
      rw [List.append_assoc, hsplit, ← hstart, htext] at htaken
      exact ⟨word :: ws, htaken⟩

/-- **The words of a text** are what it splits into. -/
theorem splitsInto_iff {t : Text} {ws : List Text} : t.SplitsInto ws ↔ words t = ws := by
  refine ⟨SplitsInto.words_eq, ?_⟩
  rintro rfl
  obtain ⟨ws, h⟩ := exists_splitsInto t
  rwa [h.words_eq]

/-! ## 2. Blanks at the ends -/

theorem words_trim (t : Text) : words (trim t) = words t := by
  let inner := t.dropWhile isBlank
  have hfront : ∀ c ∈ t.takeWhile isBlank, isBlank c = true := fun c => List.mem_takeWhile_imp
  have hback : ∀ c ∈ (inner.reverse.takeWhile isBlank).reverse, isBlank c = true := fun c hc =>
    List.mem_takeWhile_imp (List.mem_reverse.mp hc)
  have hinner : trim t ++ (inner.reverse.takeWhile isBlank).reverse = inner := by
    rw [trim, ← List.reverse_append, List.takeWhile_append_dropWhile, List.reverse_reverse]
  have htext : t.takeWhile isBlank ++ inner = t := List.takeWhile_append_dropWhile
  rw [← words_append_blanks (trim t) hback, hinner, ← words_blanks_append hfront inner, htext]

/-! ## 3. Joined words -/

/-- The end of joined words is the end of the last. -/
theorem getLast?_joined (separator : Text) : ∀ {ws : List Text}, (∀ w ∈ ws, w ≠ []) →
    (joined separator ws).getLast? = ws.getLast?.bind List.getLast?
  | [], _ => rfl
  | [w], _ => rfl
  | w :: v :: rest, h => by
    have hrest := getLast?_joined separator fun u hu => h u (List.mem_cons_of_mem w hu)
    have hne : joined separator (v :: rest) ≠ [] := by
      have hv := h v (List.mem_cons_of_mem w List.mem_cons_self)
      cases rest with
      | nil => exact hv
      | cons u rest => simp [joined_cons_cons, hv]
    have hlast : (joined separator (v :: rest)).getLast?.isSome := by simpa using hne
    rw [joined_cons_cons, List.getLast?_append, Option.or_of_isSome hlast, hrest,
      List.getLast?_cons_cons]

/-- The start of joined words is the start of the first. -/
theorem head?_joined (separator : Text) {ws : List Text} (h : ∀ w ∈ ws, w ≠ []) :
    (joined separator ws).head? = ws.head?.bind List.head? := by
  cases ws with
  | nil => rfl
  | cons w rest =>
    obtain ⟨c, w, rfl⟩ := List.exists_cons_of_ne_nil (h w List.mem_cons_self)
    cases rest with
    | nil => rfl
    | cons v rest => rfl

/-! ## 4. Upper case -/

theorem apart_blank_upper : apart blankRanges upperRuns upperExpansions = true := by decide +kernel

end Text

theorem upper_of_isBlank {c : Char} (hc : isBlank c = true) : upper c = [c] :=
  caseImage_of_apart Text.apart_blank_upper hc

theorem not_isBlank_of_mem_upper {c d : Char} (hc : isBlank c = false) (hd : d ∈ upper c) :
    isBlank d = false := by
  cases hblank : isBlank d with
  | false => rfl
  | true =>
    obtain rfl := (mem_caseImage_iff Text.apart_blank_upper hblank c).mp hd
    rw [hc] at hblank
    cases hblank

theorem upper_ne_nil (c : Char) : upper c ≠ [] := by
  have hexpansions : (upperExpansions.all fun e => !e.2.isEmpty) = true := by decide +kernel
  rcases caseImage_cases upperRuns upperExpansions c with ⟨e, he, -, himage⟩ | ⟨r, -, -, himage⟩ |
    himage
  · have hne := List.all_eq_true.mp hexpansions e he
    rw [upper, himage]
    simpa using hne
  · rw [upper, himage]
    exact List.cons_ne_nil _ _
  · rw [upper, himage]
    exact List.cons_ne_nil _ _

namespace Text

theorem toUpper_ne_nil {t : Text} (h : t ≠ []) : toUpper t ≠ [] := by
  obtain ⟨c, rest, rfl⟩ := List.exists_cons_of_ne_nil h
  rw [toUpper_cons]
  exact List.append_ne_nil_of_left_ne_nil (upper_ne_nil c) _

/-- Upper case changes the words of a text, and nothing else of it. -/
theorem SplitsInto.toUpper {t : Text} {ws : List Text} (h : t.SplitsInto ws) :
    t.toUpper.SplitsInto (ws.map Text.toUpper) := by
  induction h with
  | blanks hgap =>
    rw [toUpper_eq_self fun c hc => upper_of_isBlank (hgap c hc)]
    exact .blanks hgap
  | @word gap word rest ws hgap hne hword hrest _ ih =>
    have hblanks : gap.toUpper = gap := toUpper_eq_self fun c hc => upper_of_isBlank (hgap c hc)
    rw [toUpper_append, toUpper_append, hblanks]
    refine .word hgap (toUpper_ne_nil hne) (fun d hd => ?_) (fun d hd => ?_) ih
    · obtain ⟨c, hc, hmem⟩ := List.mem_flatMap.mp hd
      exact not_isBlank_of_mem_upper (hword c hc) hmem
    · cases rest with
      | nil => cases hd
      | cons c rest =>
        have hc : isBlank c = true := hrest c rfl
        rw [toUpper_cons, upper_of_isBlank hc] at hd
        obtain rfl : c = d := Option.some.inj hd
        exact hc

/-- A symbol is the first character in upper case exactly if it was before. -/
theorem head?_toUpper_eq_some_iff {x : Char} (hx : inRanges symbolRanges x = true) (t : Text) :
    t.toUpper.head? = some x ↔ t.head? = some x := by
  cases t with
  | nil => exact Iff.rfl
  | cons c rest =>
    have hsome : (upper c).head?.isSome := by simpa using upper_ne_nil c
    have hfirst : (Text.toUpper (c :: rest)).head? = (upper c).head? := by
      rw [toUpper_cons, List.head?_append, Option.or_of_isSome hsome]
    rw [hfirst, List.head?_cons, Option.some_inj]
    refine ⟨fun h => (mem_upper_iff hx c).mp (List.mem_of_head? h), ?_⟩
    rintro rfl
    rw [upper, caseImage_of_apart apart_upper hx, List.head?_cons]

/-- A symbol is the last character in upper case exactly if it was before. -/
theorem getLast?_toUpper_eq_some_iff {x : Char} (hx : inRanges symbolRanges x = true) (t : Text) :
    t.toUpper.getLast? = some x ↔ t.getLast? = some x := by
  cases t using List.reverseRecOn with
  | nil => exact Iff.rfl
  | append_singleton front c =>
    have hsome : (upper c).getLast?.isSome := by simpa using upper_ne_nil c
    have hlast : (Text.toUpper (front ++ [c])).getLast? = (upper c).getLast? := by
      rw [toUpper_append, List.getLast?_append, toUpper_singleton, Option.or_of_isSome hsome]
    rw [hlast, List.getLast?_concat, Option.some_inj]
    refine ⟨fun h => (mem_upper_iff hx c).mp (List.mem_of_getLast? h), ?_⟩
    rintro rfl
    rw [upper, caseImage_of_apart apart_upper hx, List.getLast?_singleton]

/-- **Words can be upper-cased before they are found or after.** -/
theorem words_toUpper (t : Text) : words (toUpper t) = (words t).map toUpper :=
  (splitsInto_iff.mpr rfl : t.SplitsInto (words t)).toUpper.words_eq

end Text

end ErrorCatalog
