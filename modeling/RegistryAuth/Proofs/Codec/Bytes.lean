import RegistryAuth.Codec.Bytes

/-! # The bytes of a text

Bytes are the text that encodes to them, if there is one.
-/

namespace RegistryAuth.Bytes

variable {bytes : Bytes} {text : String}

private theorem toList_loop (array : ByteArray) (i : Nat) (done : List UInt8) :
    ByteArray.toList.loop array i done = done.reverse ++ array.data.toList.drop i := by
  induction i, done using ByteArray.toList.loop.induct array with
  | case1 i done h ih =>
    have hl : i < array.data.toList.length := h
    have hg : array.get! i = array.data.toList[i] := getElem!_pos array.data i h
    rw [ByteArray.toList.loop, if_pos h, ih, hg, List.drop_eq_getElem_cons hl]
    simp
  | case2 i done h =>
    rw [ByteArray.toList.loop, if_neg h, List.drop_eq_nil_of_le (Nat.le_of_not_lt h),
      List.append_nil]

theorem ofText_eq (text : String) : ofText text = text.toByteArray.data.toList := by
  simp [ofText, ByteArray.toList, toList_loop]

theorem toText?_eq_some_iff : toText? bytes = some text ↔ bytes = ofText text := by
  rw [ofText_eq]
  simp only [toText?, String.fromUTF8?]
  constructor
  · intro h
    split at h
    next hv =>
      cases h
      rfl
    next => cases h
  · rintro rfl
    exact dif_pos text.isValidUTF8

theorem ofText_ofList {text : List Char} (h : ∀ c ∈ text, c.toNat < 128) :
    ofText (String.ofList text) = text.map fun c => UInt8.ofNat c.toNat := by
  have he : ofText (String.ofList text) = text.flatMap String.utf8EncodeChar := by
    rw [ofText_eq, String.toByteArray_ofList, List.utf8Encode, List.data_toByteArray]
  rw [he]
  clear he
  induction text with
  | nil => rfl
  | cons c rest ih =>
    obtain ⟨hc, hr⟩ := List.forall_mem_cons.mp h
    have hs : c.utf8Size = 1 := Char.utf8Size_eq_one_iff.mpr (Nat.le_of_lt_succ hc)
    rw [List.flatMap_cons, String.utf8EncodeChar_eq_singleton hs, ih hr]
    rfl

end RegistryAuth.Bytes
