/-
**Texts that `json.dumps` escaped, read back.**

* `readChar`: the character that a JSON text begins with;
* `readChar_escapeChar`: every character is read back from its escaped form, with and without the escapes
  outside the ASCII range;
* `dumpsText_unique`: so a quoted text is determined by what is written for it, whatever follows.
-/

import CosMonitor.Base.JsonTexts

namespace CosMonitor

/-! ### Reading -/

section Reading

/-- Four hexadecimal digits. -/
def readUnit : List Char → Option (Nat × List Char)
  | first :: second :: third :: fourth :: rest =>
      (readHex 0 [first, second, third, fourth]).map fun unit => (unit, rest)
  | _ => none

/-- What stands after `\u`: a unit, or the two of a surrogate pair. -/
def readUnicode (text : List Char) : Option (Char × List Char) :=
  (readUnit text).bind fun high =>
    if 55296 ≤ high.1 ∧ high.1 < 56320 then
      (readUnit (high.2.drop 2)).map fun low =>
        (Char.ofNat (65536 + (high.1 - 55296) * 1024 + (low.1 - 56320)), low.2)
    else some (Char.ofNat high.1, high.2)

/-- What stands after a backslash. -/
def readEscape : List Char → Option (Char × List Char)
  | [] => none
  | 'u' :: rest => readUnicode rest
  | 'n' :: rest => some ('\n', rest)
  | 'r' :: rest => some ('\r', rest)
  | 't' :: rest => some ('\t', rest)
  | 'b' :: rest => some (Char.ofNat 8, rest)
  | 'f' :: rest => some (Char.ofNat 12, rest)
  | other :: rest => some (other, rest)

/-- The character that a JSON text begins with, and the rest. -/
def readChar : List Char → Option (Char × List Char)
  | [] => none
  | character :: rest => if character = '\\' then readEscape rest else some (character, rest)

variable {code : Nat} {rest : List Char}

theorem readUnit_hexDigits (small : code < 65536) :
    readUnit (hexDigits 4 code ++ rest) = some (code, rest) := by
  have read : readHex 0 (hexDigits 4 code) = some code := readHex_hexDigits (show code < 16 ^ 4 by omega)
  simp only [hexDigits, List.nil_append, List.cons_append] at read ⊢
  rw [readUnit, read, Option.map_some]

theorem readUnicode_unit (small : code < 65536) (notHigh : ¬(55296 ≤ code ∧ code < 56320)) :
    readUnicode (hexDigits 4 code ++ rest) = some (Char.ofNat code, rest) := by
  rw [readUnicode, readUnit_hexDigits small, Option.bind_some, if_neg notHigh]

theorem readUnicode_pair (above : 65536 ≤ code) (below : code < 1114112) :
    readUnicode (hexDigits 4 (55296 + (code - 65536) / 1024) ++
      (unicodeEscape (56320 + (code - 65536) % 1024) ++ rest)) = some (Char.ofNat code, rest) := by
  have isHigh : 55296 ≤ 55296 + (code - 65536) / 1024 ∧ 55296 + (code - 65536) / 1024 < 56320 := by omega
  have skipped (low : Nat) : (unicodeEscape low ++ rest).drop 2 = hexDigits 4 low ++ rest := rfl
  rw [readUnicode, readUnit_hexDigits (by omega), Option.bind_some, if_pos isHigh, skipped,
    readUnit_hexDigits (by omega), Option.map_some]
  have whole : 65536 + (55296 + (code - 65536) / 1024 - 55296) * 1024 +
      (56320 + (code - 65536) % 1024 - 56320) = code := by omega
  rw [whole]

/-- **Every character is read back** from what is written for it. -/
theorem readChar_escapeChar (ascii : Bool) (character : Char) :
    readChar (escapeChar ascii character ++ rest) = some (character, rest) := by
  have scalar := scalar_range character
  unfold escapeChar
  split
  · rfl
  · rfl
  · rfl
  · rfl
  · rfl
  · rename_i other notQuote notBackslash notLine notReturn notTab
    dsimp only
    split_ifs with backspace formFeed control outside first
    · rw [← Char.ofNat_toNat character, backspace]
      rfl
    · rw [← Char.ofNat_toNat character, formFeed]
      rfl
    · show readUnicode (hexDigits 4 character.toNat ++ rest) = _
      rw [readUnicode_unit (by omega) (by omega), Char.ofNat_toNat]
    · show readUnicode (hexDigits 4 character.toNat ++ rest) = _
      rw [readUnicode_unit first (by omega), Char.ofNat_toNat]
    · rw [List.append_assoc]
      show readUnicode (hexDigits 4 _ ++ _) = _
      rw [readUnicode_pair (by omega) (by omega), Char.ofNat_toNat]
    · rw [List.singleton_append, readChar, if_neg notBackslash]

theorem escapeChar_prefixCode (ascii : Bool) (character other : Char) (rest after : List Char)
    (same : escapeChar ascii character ++ rest = escapeChar ascii other ++ after) :
    character = other ∧ rest = after := by
  have read : some (character, rest) = some (other, after) := by
    rw [← readChar_escapeChar ascii character, ← readChar_escapeChar ascii other, same]
  exact Prod.ext_iff.mp (Option.some.inj read)

theorem escapeChar_opens (ascii : Bool) (character : Char) :
    ∃ head tail, escapeChar ascii character = head :: tail ∧ head ≠ '"' := by
  unfold escapeChar
  split
  · exact ⟨_, _, rfl, by decide⟩
  · exact ⟨_, _, rfl, by decide⟩
  · exact ⟨_, _, rfl, by decide⟩
  · exact ⟨_, _, rfl, by decide⟩
  · exact ⟨_, _, rfl, by decide⟩
  · rename_i other notQuote notBackslash notLine notReturn notTab
    dsimp only
    split_ifs
    · exact ⟨_, _, rfl, by decide⟩
    · exact ⟨_, _, rfl, by decide⟩
    · exact ⟨_, _, rfl, by decide⟩
    · exact ⟨_, _, rfl, by decide⟩
    · exact ⟨_, _, rfl, by decide⟩
    · exact ⟨_, _, rfl, notQuote⟩

/-- **A quoted text is determined** by what is written for it. -/
theorem dumpsText_unique {ascii : Bool} {text other : String} {after : List Char}
    (same : dumpsText ascii text ++ rest = dumpsText ascii other ++ after) : text = other ∧ rest = after := by
  rw [dumpsText, dumpsText, List.cons_append, List.cons_append, List.append_assoc, List.append_assoc] at same
  obtain ⟨words, rests⟩ := Readable.code_unique (escapeChar_prefixCode ascii) (escapeChar_opens ascii)
    (List.cons.inj same).2
  exact ⟨String.toList_injective words, rests⟩

end Reading

end CosMonitor
