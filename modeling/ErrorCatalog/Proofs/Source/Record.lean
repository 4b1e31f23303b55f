import ErrorCatalog.Proofs.Catalog.Refusal
import ErrorCatalog.Proofs.Run.Loading
import ErrorCatalog.Proofs.Source.Lines
import ErrorCatalog.Proofs.Text.Bytes

/-!
# `ErrorCatalog/Proofs/Source/Record.lean` — a line read as bytes

A reader of records does not see the characters of a line. It takes the bytes of the line, drops the
three bytes of a byte order mark in front, cuts at every byte that is a vertical bar, and only then
decodes, each field by itself. So there are two places at which an input can turn out not to be UTF-8:
the input as a whole, and a field (`ReadFault`). `Source.readBytes` is reading with both.

The second place cannot be reached. The bytes come from a text, a cut at a vertical bar never goes
through a character, and so each field is a text again, the one that `splitFields` gives
(`recordFields?_bytes`). What is left is `Source.ofBytes?`, which fails at the first place only.

* `splitFields` takes nothing away and adds nothing: joined again, the fields are the line.
* `Source.readBytes_verbatim` is both, for a whole input.
-/

set_option autoImplicit false

namespace ErrorCatalog

/-! ## 1. Reading bytes -/

def markBytes : List UInt8 := [0xEF, 0xBB, 0xBF]

/-- The fields of a line as bytes. A line of which nothing is left has none. -/
def recordBytes (line : List UInt8) : List (List UInt8) :=
  match (line.dropPrefix? markBytes).getD line with
  | [] => []
  | content => content.splitOn 0x7C

/-- The fields of a line that is given as bytes, each decoded by itself. -/
def recordFields? (line : List UInt8) : Option (List Text) :=
  (recordBytes line).mapM fun field => Text.decode? field.toByteArray

/-- Where an input turns out not to be UTF-8. -/
inductive ReadFault where
  | input
  /-- Some field of the line with the given number. -/
  | field (line : Nat)
deriving DecidableEq

/-- The rows of consecutive lines, each read as bytes. -/
def readRowsFrom : Nat → List Text → Except ReadFault (List Row)
  | _, [] => .ok []
  | n, [] :: lines => readRowsFrom (n + 1) lines
  | n, line :: lines =>
    match recordFields? line.bytes with
    | none => .error (.field n)
    | some fields => (readRowsFrom (n + 1) lines).map (⟨n, fields⟩ :: ·)

def Source.readBytes (name : Text) (bytes : ByteArray) : Except ReadFault Source :=
  match Text.decode? bytes with
  | none => .error .input
  | some text => (readRowsFrom 1 (physicalLines text)).map (Source.mk name)

/-! ## 2. A line -/

/-- The bytes of a mark in front of a line are a mark in front of it. -/
theorem getD_dropPrefix?_bytes (line : Text) :
    (line.bytes.dropPrefix? markBytes).getD line.bytes = (withoutMark line).bytes := by
  have hmark : markBytes = Text.bytes [byteOrderMark] := by decide
  cases line with
  | nil => rfl
  | cons c rest =>
    by_cases hc : c = byteOrderMark
    · subst hc
      have hdrop : (Text.bytes (byteOrderMark :: rest)).dropPrefix? markBytes = some (Text.bytes rest) :=
        List.dropPrefix?_eq_some_iff.mpr
          ⟨markBytes, by rw [Text.bytes_cons, hmark]; rfl, beq_self_eq_true markBytes⟩
      rw [hdrop, withoutMark, if_pos rfl, Option.getD_some]
    · have hnone : (Text.bytes (c :: rest)).dropPrefix? markBytes = none := by
        cases hdrop : (Text.bytes (c :: rest)).dropPrefix? markBytes with
        | none => rfl
        | some after =>
          obtain ⟨front, heq, hfront⟩ := List.dropPrefix?_eq_some_iff.mp hdrop
          rw [eq_of_beq hfront, hmark] at heq
          have hbytes : List.utf8Encode [byteOrderMark] ++ after.toByteArray =
              List.utf8Encode (c :: rest) := by
            show (Text.bytes [byteOrderMark]).toByteArray ++ after.toByteArray =
              (Text.bytes (c :: rest)).toByteArray
            rw [heq, List.toByteArray_append]
          have hprefix := List.isPrefix_of_utf8Encode_append_eq_utf8Encode _ hbytes
          exact absurd (List.cons_prefix_cons.mp hprefix).1.symm hc
      rw [hnone, withoutMark, if_neg hc, Option.getD_none]

theorem recordBytes_bytes (line : Text) :
    recordBytes line.bytes = (splitFields line).map Text.bytes := by
  unfold recordBytes splitFields
  rw [getD_dropPrefix?_bytes]
  cases withoutMark line with
  | nil => rfl
  | cons c rest =>
    have hcut := Text.splitOn_bytes (by decide : '|'.toNat < 128) (c :: rest)
    split
    · rename_i hnil
      simp [Text.bytes_cons, String.utf8EncodeChar_ne_nil] at hnil
    · exact hcut

/-- **A line read as bytes** has the fields of the line. No field fails to be decoded. -/
theorem recordFields?_bytes (line : Text) : recordFields? line.bytes = some (splitFields line) := by
  have hdecode : ∀ field : Text, Text.decode? field.bytes.toByteArray = some field :=
    Text.decode?_encode
  rw [recordFields?, recordBytes_bytes, List.mapM_map]
  have hpure : ((fun field => Text.decode? field.toByteArray) ∘ Text.bytes) =
      fun field => (pure field : Option Text) := funext hdecode
  rw [hpure, List.mapM_pure, List.map_id']
  rfl

/-- A line that starts with two marks, and a bar next to a character of three bytes. -/
example : recordFields? (Text.bytes "\uFEFF\uFEFF日|\"|".toList) =
    some ["\uFEFF日".toList, "\"".toList, []] := by
  cbv

/-- The fields with bars between them are the line. -/
theorem joined_splitFields (line : Text) :
    Text.joined [fieldDelimiter] (splitFields line) = withoutMark line := by
  unfold splitFields
  split
  · rename_i h
    rw [h]
    rfl
  · exact Text.joined_pieces fieldDelimiter (withoutMark line)

theorem Text.length_pieces (a : Char) (t : Text) :
    (pieces (· == a) t).length = t.count a + 1 := by
  induction t with
  | nil => rfl
  | cons c rest ih =>
    rw [pieces, List.count_cons]
    by_cases hc : c = a
    · simp [hc, ih]
    · have hne : (c == a) = false := by simpa using hc
      rw [hne]
      cases hp : pieces (· == a) rest with
      | nil => exact absurd hp (pieces_ne_nil _ _)
      | cons first others =>
        rw [hp] at ih
        simpa using ih

theorem length_splitFields (line : Text) :
    (splitFields line).length =
      if withoutMark line = [] then 0 else (withoutMark line).count fieldDelimiter + 1 := by
  unfold splitFields
  split
  · rename_i h
    rw [if_pos h]
    rfl
  · rename_i h
    rw [if_neg h]
    exact Text.length_pieces fieldDelimiter (withoutMark line)

theorem delimiter_not_mem_of_mem_splitFields {line field : Text} (h : field ∈ splitFields line) :
    fieldDelimiter ∉ field := by
  intro hmem
  unfold splitFields at h
  split at h
  · cases h
  · have hnot := (Text.of_mem_pieces h fieldDelimiter hmem).2
    simp at hnot

/-! ## 3. A whole input -/

theorem readRowsFrom_eq (lines : List Text) :
    ∀ n, readRowsFrom n lines = .ok (rowsFrom n lines) := by
  induction lines with
  | nil => intro n; rfl
  | cons line lines ih =>
    intro n
    cases line with
    | nil => exact ih (n + 1)
    | cons c rest =>
      rw [readRowsFrom, recordFields?_bytes, ih (n + 1), rowsFrom]
      · rfl
      all_goals simp

/-- Reading fails at the first place only, and otherwise gives what `ofBytes?` gives. -/
theorem Source.readBytes_eq (name : Text) (bytes : ByteArray) :
    readBytes name bytes =
      match ofBytes? name bytes with
      | none => .error .input
      | some source => .ok source := by
  unfold readBytes ofBytes?
  cases Text.decode? bytes with
  | none => rfl
  | some text =>
    dsimp only
    rw [readRowsFrom_eq]
    rfl

theorem catalogOfBytes_eq_unavailable_iff (policy : BuildPolicy) (name : Text) (bytes : ByteArray) :
    (∃ n cause, catalogOfBytes policy name bytes = .error (.unavailable n cause)) ↔
      ¬ bytes.IsValidUTF8 := by
  rw [← Text.decode?_eq_none_iff]
  unfold catalogOfBytes Source.ofBytes?
  cases Text.decode? bytes with
  | none => simp
  | some text =>
    simp only [Option.map_some, reduceCtorEq, iff_false, not_exists]
    intro n cause h
    rcases Source.isOfRow_or_empty h with hrow | hempty
    · exact hrow.elim
    · cases hempty

/-- What a row has of its line, which is given with its number. -/
structure Row.IsOfLine (line : Text × Nat) (row : Row) : Prop where
  line_eq : row.line = line.2
  joined_eq : Text.joined ['|'] row.fields = withoutMark line.1
  length_eq : row.fields.length =
    if withoutMark line.1 = [] then 0 else (withoutMark line.1).count '|' + 1
  plain : ∀ field ∈ row.fields, '|' ∉ field ∧ '\n' ∉ field ∧ '\r' ∉ field

theorem Source.forall₂_rows (name text : Text) :
    List.Forall₂ Row.IsOfLine (((physicalLines text).zipIdx 1).filter (·.1 ≠ []))
      (ofText name text).rows := by
  rw [ofText, rowsFrom_eq, List.forall₂_map_right_iff, List.forall₂_same]
  intro p hp
  have hline : p.1.Unbroken :=
    unbroken_of_mem_physicalLines (List.fst_mem_of_mem_zipIdx (List.mem_filter.mp hp).1)
  refine ⟨rfl, joined_splitFields p.1, length_splitFields p.1, fun field hfield => ?_⟩
  have hfrom := mem_of_mem_splitFields hfield
  exact ⟨delimiter_not_mem_of_mem_splitFields hfield, fun h => hline.1 (hfrom _ h),
    fun h => hline.2 (hfrom _ h)⟩

/-- **Reading takes fields as they are, and fails only on bytes that are not UTF-8.** Reading bytes
fails exactly if they are not UTF-8 as a whole, and never at a field; the program reads the same and
reports exactly those bytes as unavailable. All other bytes are those of a text, and each line of the
text that is not empty has its row: joined by bars the fields are the line without its mark, there is
one more than there are bars, none in a line of which nothing is left, and no field has a bar or a line
end in it. -/
theorem Source.readBytes_verbatim (name : Text) (bytes : ByteArray) :
    ((∃ fault, readBytes name bytes = .error fault) ↔ ¬ bytes.IsValidUTF8) ∧
    (∀ fault, readBytes name bytes = .error fault → fault = .input) ∧
    (∀ source, readBytes name bytes = .ok source ↔ ofBytes? name bytes = some source) ∧
    (∀ logger clock input w spans policy,
      (∃ n cause, ((loadBytes spans policy name bytes).run logger clock input w).1 =
        .error (.unavailable n cause)) ↔ ¬ bytes.IsValidUTF8) ∧
    (bytes.IsValidUTF8 → ∃ text source, bytes = Text.encode text ∧
      readBytes name bytes = .ok source ∧ source.name = name ∧
      List.Forall₂ Row.IsOfLine (((physicalLines text).zipIdx 1).filter (·.1 ≠ [])) source.rows) := by
  have hread := readBytes_eq name bytes
  refine ⟨?_, ?_, ?_, ?_, ?_⟩
  · rw [← Text.decode?_eq_none_iff, hread]
    unfold ofBytes?
    cases Text.decode? bytes with
    | none => simp
    | some text => simp
  · intro fault h
    rw [hread] at h
    split at h
    · exact (Except.error.inj h).symm
    · cases h
  · intro source
    rw [hread]
    cases ofBytes? name bytes with
    | none => simp
    | some other => simp
  · intro logger clock input w spans policy
    rw [fst_run_loadBytes]
    exact catalogOfBytes_eq_unavailable_iff policy name bytes
  · intro hvalid
    obtain ⟨text, htext⟩ := (Text.isValidUTF8_iff bytes).mp hvalid
    refine ⟨text, ofText name text, htext, ?_, rfl, forall₂_rows name text⟩
    rw [hread, ofBytes?, htext, Text.decode?_encode]
    rfl

end ErrorCatalog
