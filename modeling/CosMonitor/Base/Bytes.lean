/-
**The bytes of texts.**

* `toList_toUTF8_injective`: a text is told by its bytes;
* `length_toUTF8_uuidText`: the text of an identifier has 36 bytes, one for each character.
-/

import CosMonitor.Base.Uuid

namespace CosMonitor

theorem byteArray_toList_loop (bytes : ByteArray) (index : Nat) (read : List UInt8) :
    ByteArray.toList.loop bytes index read = read.reverse ++ bytes.data.toList.drop index := by
  fun_induction ByteArray.toList.loop bytes index read with
  | case1 index read inside ih =>
      have listed : index < bytes.data.toList.length := inside
      rw [ih, List.drop_eq_getElem_cons listed]
      simp [ByteArray.get!, inside]
  | case2 index read outside =>
      rw [List.drop_eq_nil_of_le (Nat.le_of_not_lt outside), List.append_nil]

theorem byteArray_toList (bytes : ByteArray) : bytes.toList = bytes.data.toList := by
  unfold ByteArray.toList
  rw [byteArray_toList_loop, List.drop_zero]
  rfl

/-- **A text is told by its bytes.** -/
theorem toList_toUTF8_injective {text other : String}
    (same : text.toUTF8.toList = other.toUTF8.toList) : text = other := by
  rw [byteArray_toList, byteArray_toList] at same
  exact String.toByteArray_inj.mp (ByteArray.ext (Array.toList_inj.mp same))

theorem length_toUTF8 (text : String) : text.toUTF8.toList.length = text.utf8ByteSize := by
  rw [byteArray_toList]
  rfl

theorem utf8ByteSize_ofList {characters : List Char}
    (ascii : ∀ character ∈ characters, character.utf8Size = 1) :
    (String.ofList characters).utf8ByteSize = characters.length := by
  induction characters with
  | nil => rfl
  | cons character rest ih =>
      have split : String.ofList (character :: rest) = String.singleton character ++ String.ofList rest := by
        apply String.toList_injective
        simp
      rw [split, String.utf8ByteSize_append, String.utf8ByteSize_singleton,
        ascii character List.mem_cons_self, ih fun later member => ascii later (List.mem_cons_of_mem _ member),
        List.length_cons, Nat.add_comm]

theorem utf8Size_hexChar {digit : Nat} (small : digit < 16) : (hexChar digit).utf8Size = 1 := by
  revert digit
  decide

/-- **The text of an identifier has 36 bytes.** -/
theorem length_toUTF8_uuidText (id : Uuid) : (uuidText id).toUTF8.toList.length = 36 := by
  rw [length_toUTF8, uuidText, utf8ByteSize_ofList, length_uuidChars]
  intro character member
  rcases mem_uuidChars member with rfl | digit
  · rfl
  · obtain ⟨value, small, rfl⟩ := hexValue_of_mem_hexDigits digit
    exact utf8Size_hexChar small

end CosMonitor
