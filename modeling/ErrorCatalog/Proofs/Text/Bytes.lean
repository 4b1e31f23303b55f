import ErrorCatalog.Proofs.Text.Pieces

/-!
# `ErrorCatalog/Proofs/Text/Bytes.lean` — texts as bytes

A text is stored as the UTF-8 forms of its characters, one after the other (`Text.bytes`). Two facts
about that form are used wherever bytes are looked at instead of characters.

* It can be undone: a stored text is decoded again (`Text.decode?_encode`), and exactly the stored
  texts are well-formed (`Text.isValidUTF8_iff`).
* A byte below 128 is never a part of another character (`mem_utf8EncodeChar_iff`). So cutting the
  bytes of a text at such a byte is cutting the text at that character (`Text.splitOn_bytes`), and no
  character is cut in two.
-/

set_option autoImplicit false

namespace ErrorCatalog

/-! ## 1. Encoding and decoding -/

namespace Text

def bytes (t : Text) : List UInt8 := t.flatMap String.utf8EncodeChar

theorem bytes_cons (c : Char) (t : Text) : bytes (c :: t) = String.utf8EncodeChar c ++ bytes t :=
  List.flatMap_cons

theorem encode_eq_toByteArray (t : Text) : encode t = t.bytes.toByteArray := rfl

theorem size_encode (t : Text) : (encode t).size = t.byteSize := by
  rw [encode_eq_toByteArray, List.size_toByteArray]
  induction t with
  | nil => rfl
  | cons c rest ih =>
    rw [bytes_cons, List.length_append, String.length_utf8EncodeChar, ih, byteSize_cons]

theorem isValidUTF8_iff (bytes : ByteArray) : bytes.IsValidUTF8 ↔ ∃ t : Text, bytes = encode t := by
  constructor
  · rintro ⟨t, ht⟩
    exact ⟨t, ht⟩
  · rintro ⟨t, rfl⟩
    exact ⟨t, rfl⟩

theorem decode?_encode (t : Text) : decode? (encode t) = some t := by
  have hvalid : (encode t).IsValidUTF8 := ⟨t, rfl⟩
  have hstring : String.fromUTF8 (encode t) hvalid = String.ofList t := rfl
  rw [decode?, String.fromUTF8?, dif_pos hvalid, Option.map_some, hstring, String.toList_ofList]

theorem decode?_eq_none_iff (bytes : ByteArray) : decode? bytes = none ↔ ¬ bytes.IsValidUTF8 := by
  rw [decode?, Option.map_eq_none_iff, String.fromUTF8?]
  split
  · rename_i h
    simp [h]
  · rename_i h
    simp [h]

end Text

/-! ## 2. ASCII characters -/

theorem utf8EncodeChar_of_lt {c : Char} (h : c.toNat < 128) :
    String.utf8EncodeChar c = [UInt8.ofNat c.toNat] := by
  have hle : c.val.toNat ≤ 127 := Nat.le_of_lt_succ h
  rw [String.utf8EncodeChar]
  exact if_pos hle

theorem le_of_mem_utf8EncodeChar {c : Char} (h : 128 ≤ c.toNat) :
    ∀ b ∈ String.utf8EncodeChar c, 128 ≤ b.toNat := by
  have hnot : ¬ c.val.toNat ≤ 127 := Nat.not_le_of_lt h
  intro b hb
  simp only [String.utf8EncodeChar, if_neg hnot] at hb
  split at hb
  · simp at hb
    rcases hb with rfl | rfl <;> simp <;> omega
  · split at hb
    · simp at hb
      rcases hb with rfl | rfl | rfl <;> simp <;> omega
    · simp at hb
      rcases hb with rfl | rfl | rfl | rfl <;> simp <;> omega

/-- **An ASCII byte is an ASCII character**, and no part of another. -/
theorem mem_utf8EncodeChar_iff {a : Char} (ha : a.toNat < 128) (c : Char) :
    UInt8.ofNat a.toNat ∈ String.utf8EncodeChar c ↔ c = a := by
  have hbyte : (UInt8.ofNat a.toNat).toNat = a.toNat := by
    rw [UInt8.toNat_ofNat']
    omega
  by_cases hc : c.toNat < 128
  · have hcbyte : (UInt8.ofNat c.toNat).toNat = c.toNat := by
      rw [UInt8.toNat_ofNat']
      omega
    rw [utf8EncodeChar_of_lt hc, List.mem_singleton]
    constructor
    · intro h
      have heq : a.toNat = c.toNat := by rw [← hbyte, h, hcbyte]
      exact (Char.toNat_inj.mp heq).symm
    · rintro rfl
      rfl
  · constructor
    · intro h
      have hle := le_of_mem_utf8EncodeChar (Nat.le_of_not_lt hc) _ h
      omega
    · rintro rfl
      exact absurd ha hc

/-- What stands before the first place to cut belongs to the first piece. -/
theorem splitOn_append_of_not_mem {b : UInt8} {front : List UInt8} (h : b ∉ front)
    (rest : List UInt8) :
    (front ++ rest).splitOn b = (rest.splitOn b).modifyHead (front ++ ·) := by
  induction front with
  | nil =>
    have hid : (fun bytes : List UInt8 => [] ++ bytes) = id := rfl
    rw [List.nil_append, hid, List.modifyHead_id]
    rfl
  | cons d front ih =>
    obtain ⟨hd, hfront⟩ := not_or.mp (mt List.mem_cons.mpr h)
    have hne : (d == b) = false := by simpa using Ne.symm hd
    rw [List.cons_append, List.splitOn_cons_eq_if_modifyHead, hne, ih hfront]
    simp [Function.comp_def]

/-- **Cutting bytes at an ASCII character is cutting the text there**, by induction on the text. -/
theorem Text.splitOn_bytes {a : Char} (ha : a.toNat < 128) (t : Text) :
    t.bytes.splitOn (UInt8.ofNat a.toNat) = (Text.pieces (· == a) t).map Text.bytes := by
  induction t with
  | nil => rfl
  | cons c rest ih =>
    rw [Text.bytes_cons, Text.pieces]
    by_cases hc : c = a
    · subst hc
      rw [utf8EncodeChar_of_lt ha, List.singleton_append, List.splitOn_cons_eq_if_modifyHead, ih]
      simp [Text.bytes]
    · have hnot : UInt8.ofNat a.toNat ∉ String.utf8EncodeChar c :=
        mt (mem_utf8EncodeChar_iff ha c).mp hc
      have hne : (c == a) = false := by simpa using hc
      rw [splitOn_append_of_not_mem hnot, ih, hne]
      cases hp : Text.pieces (· == a) rest with
      | nil => exact absurd hp (Text.pieces_ne_nil _ _)
      | cons first others => simp [Text.bytes_cons]

end ErrorCatalog
