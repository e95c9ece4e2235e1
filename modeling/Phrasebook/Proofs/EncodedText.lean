import Phrasebook.File.Encoding

namespace Phrasebook.File

theorem toList_loop (bytes : ByteArray) (i : Nat) (seen : List UInt8) :
    ByteArray.toList.loop bytes i seen = seen.reverse ++ bytes.data.toList.drop i := by
  fun_induction ByteArray.toList.loop bytes i seen with
  | case1 i seen hi ih =>
    have hlt : i < bytes.data.toList.length := by simpa using hi
    rw [ih, List.drop_eq_getElem_cons hlt]
    simp [ByteArray.get!, hi]
  | case2 i seen hi =>
    have hle : bytes.data.toList.length ≤ i := by simpa using hi
    rw [List.drop_eq_nil_of_le hle, List.append_nil]

theorem toList_toByteArray (bs : List UInt8) : bs.toByteArray.toList = bs := by
  rw [ByteArray.toList, toList_loop]
  simp

namespace Encoding

def covers : Encoding → Char → Bool
  | .utf8, _ | .utf8Marked, _ => true
  | .latin1, c => c.toNat < 256
  | .ascii, c => c.toNat < 128

def charBytes : Encoding → Char → List UInt8
  | .utf8, c | .utf8Marked, c => String.utf8EncodeChar c
  | .latin1, c | .ascii, c => [c.toNat.toUInt8]

def signature : Encoding → List UInt8
  | .utf8Marked => mark
  | _ => []

def encode (e : Encoding) (s : String) : ByteArray :=
  (e.signature ++ s.toList.flatMap e.charBytes).toByteArray

def CanEncode (e : Encoding) (s : String) : Prop := ∀ c ∈ s.toList, e.covers c

section Wide

theorem fromUTF8?_charBytes (s : String) :
    String.fromUTF8? (s.toList.flatMap String.utf8EncodeChar).toByteArray = some s := by
  have hbytes : (s.toList.flatMap String.utf8EncodeChar).toByteArray = s.toByteArray :=
    String.utf8Encode_toList
  rw [hbytes, String.fromUTF8?, dif_pos s.isValidUTF8]
  rfl

theorem dropMark_mark_append (bs : List UInt8) :
    dropMark (mark ++ bs).toByteArray = bs.toByteArray := by
  have hprefix : mark.isPrefixOf (mark ++ bs) = true := by
    rw [List.isPrefixOf_iff_prefix]
    exact List.prefix_append mark bs
  rw [dropMark, toList_toByteArray, if_pos hprefix]
  ext1
  simp

/-- Only the empty text leaves nothing behind the mark. -/
theorem isPrefixOf_mark_iff (s : String) :
    (mark ++ s.toList.flatMap String.utf8EncodeChar).isPrefixOf mark = true ↔ s = "" := by
  rw [List.isPrefixOf_iff_prefix]
  constructor
  · intro h
    have hlength := h.length_le
    have hnil : s.toList.flatMap String.utf8EncodeChar = [] := by
      apply List.eq_nil_of_length_eq_zero
      rw [List.length_append] at hlength
      omega
    cases hs : s.toList with
    | nil => simpa using hs
    | cons c cs =>
      rw [hs, List.flatMap_cons, List.append_eq_nil_iff] at hnil
      exact absurd hnil.1 String.utf8EncodeChar_ne_nil
  · rintro rfl
    simp

end Wide

section Narrow

def narrow (s : String) : List UInt8 := s.toList.map fun c => c.toNat.toUInt8

theorem toNat_toUInt8 {c : Char} (h : c.toNat < 256) : c.toNat.toUInt8.toNat = c.toNat := by
  simp [Nat.mod_eq_of_lt h]

theorem byteChar_toUInt8 {c : Char} (h : c.toNat < 256) : byteChar c.toNat.toUInt8 = c := by
  rw [byteChar, toNat_toUInt8 h, Char.ofNat_toNat]

theorem ofList_map_narrow {s : String} (h : ∀ c ∈ s.toList, c.toNat < 256) :
    String.ofList ((narrow s).map byteChar) = s := by
  have hchars : (narrow s).map byteChar = s.toList := by
    rw [narrow, List.map_map]
    calc s.toList.map (byteChar ∘ fun c => c.toNat.toUInt8)
      _ = s.toList.map id := List.map_congr_left fun c hc => byteChar_toUInt8 (h c hc)
      _ = s.toList := List.map_id _
  rw [hchars, String.ofList_toList]

theorem all_narrow_lt {s : String} (h : ∀ c ∈ s.toList, c.toNat < 128) :
    (narrow s).all (· < 128) = true := by
  rw [List.all_eq_true, narrow, List.forall_mem_map]
  intro c hc
  have hc := h c hc
  rw [decide_eq_true_eq, UInt8.lt_iff_toNat_lt, toNat_toUInt8 (by omega)]
  exact hc

end Narrow

theorem decode_encode {e : Encoding} {s : String} (h : e.CanEncode s) :
    e.decode (e.encode s) = some s := by
  cases e with
  | utf8 => exact fromUTF8?_charBytes s
  | utf8Marked =>
    have hencode : encode .utf8Marked s =
        (mark ++ s.toList.flatMap String.utf8EncodeChar).toByteArray := rfl
    rw [decode, hencode, toList_toByteArray, dropMark_mark_append, fromUTF8?_charBytes]
    split
    · rename_i hempty
      rw [(isPrefixOf_mark_iff s).mp hempty]
    · rfl
  | latin1 =>
    have hencode : encode .latin1 s = (narrow s).toByteArray :=
      congrArg List.toByteArray List.map_eq_flatMap.symm
    have hsmall : ∀ c ∈ s.toList, c.toNat < 256 := fun c hc => by simpa [covers] using h c hc
    rw [decode, hencode, toList_toByteArray, ofList_map_narrow hsmall]
  | ascii =>
    have hencode : encode .ascii s = (narrow s).toByteArray :=
      congrArg List.toByteArray List.map_eq_flatMap.symm
    have hsmall : ∀ c ∈ s.toList, c.toNat < 128 := fun c hc => by simpa [covers] using h c hc
    rw [decode, hencode, toList_toByteArray, if_pos (all_narrow_lt hsmall), ofList_map_narrow]
    intro c hc
    exact Nat.lt_trans (hsmall c hc) (by decide)

end Encoding

end Phrasebook.File
