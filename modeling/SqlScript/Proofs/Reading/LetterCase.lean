import SqlScript.Proofs.Reading.Encoding
import SqlScript.Proofs.Text.LetterCase

/-!
Upper-casing the letters a to z of a script before it is read. These letters are bytes of their own
in UTF-8, so the bytes of a script can be upper-cased without decoding them, and the script is read
to the same point, with the lines it had in upper case.
-/

namespace SqlScript

open Text

/-- The byte of a letter from a to z as that of its upper case, any other byte as it is. -/
def upperByte (b : UInt8) : UInt8 := if 0x61 ≤ b ∧ b ≤ 0x7A then b - 0x20 else b

def Source.asciiUpper (source : Source) : Source :=
  { source with bytes := source.bytes.map upperByte }

def Reading.asciiUpper (reading : Reading) : Reading :=
  { reading with lines := reading.lines.map Text.asciiUpper }

namespace Reading

/-! ### Bytes -/

theorem forall_byte {P : UInt8 → Prop} (h : ∀ n < 256, P (UInt8.ofNat n)) (b : UInt8) : P b := by
  have hb := h b.toNat b.toNat_lt
  rwa [UInt8.ofNat_toNat] at hb

theorem upperByte_of_le : ∀ {b : UInt8}, 0x80 ≤ b.toNat → upperByte b = b :=
  @(forall_byte (by decide +kernel))

theorem toNat_upperByte_lt_iff : ∀ b : UInt8, (upperByte b).toNat < 0x80 ↔ b.toNat < 0x80 :=
  forall_byte (by decide +kernel)

theorem upperByte_eq_lineFeed_iff : ∀ b : UInt8, upperByte b = 0x0A ↔ b = 0x0A :=
  forall_byte (by decide +kernel)

theorem map_upperByte_of_forall_le {bytes : List UInt8} (h : ∀ b ∈ bytes, 0x80 ≤ b.toNat) :
    bytes.map upperByte = bytes :=
  (List.map_congr_left fun b hb => upperByte_of_le (h b hb)).trans (List.map_id bytes)

/-! ### Encoded texts -/

theorem map_upperByte_utf8EncodeChar (c : Char) :
    (String.utf8EncodeChar c).map upperByte = String.utf8EncodeChar c.toUpper := by
  by_cases hc : 0x7F < c.toNat
  · rw [toUpper_of_not_ascii hc]
    exact map_upperByte_of_forall_le fun b hb => le_toNat_of_mem_utf8EncodeChar hc hb
  · have hascii : ∀ n < 128, (String.utf8EncodeChar (Char.ofNat n)).map upperByte =
        String.utf8EncodeChar (Char.ofNat n).toUpper := by decide +kernel
    have hc' := hascii c.toNat (by omega)
    rwa [Char.ofNat_toNat] at hc'

theorem encode_asciiUpper (text : Text) :
    encode (Text.asciiUpper text) = (encode text).map upperByte := by
  simp only [encode, Text.asciiUpper, List.flatMap_map, List.map_flatMap,
    map_upperByte_utf8EncodeChar]

/-- Bytes whose upper case encodes a character encode one themselves. -/
theorem exists_eq_utf8EncodeChar {bytes : List UInt8} {c : Char}
    (h : bytes.map upperByte = String.utf8EncodeChar c) :
    ∃ d, bytes = String.utf8EncodeChar d := by
  by_cases hc : 0x7F < c.toNat
  · have hbytes : ∀ b ∈ bytes, 0x80 ≤ b.toNat := by
      intro b hb
      have hupper := le_toNat_of_mem_utf8EncodeChar hc (h ▸ List.mem_map_of_mem hb)
      have hiff := toNat_upperByte_lt_iff b
      omega
    exact ⟨c, (map_upperByte_of_forall_le hbytes).symm.trans h⟩
  · rw [utf8EncodeChar_of_ascii hc, List.map_eq_singleton_iff] at h
    obtain ⟨b, rfl, hb⟩ := h
    have hupper : (upperByte b).toNat < 0x80 := by
      rw [hb, UInt8.toNat_ofNat']
      omega
    have hascii : ∀ n < 128, String.utf8EncodeChar (Char.ofNat n) = [UInt8.ofNat n] := by
      decide +kernel
    have hb' := hascii b.toNat ((toNat_upperByte_lt_iff b).mp hupper)
    rw [UInt8.ofNat_toNat] at hb'
    exact ⟨Char.ofNat b.toNat, hb'.symm⟩

theorem exists_eq_encode {bytes : List UInt8} {text : Text}
    (h : bytes.map upperByte = encode text) : ∃ t, bytes = encode t := by
  induction text generalizing bytes with
  | nil => exact ⟨[], List.map_eq_nil_iff.mp h⟩
  | cons c text ih =>
      obtain ⟨first, rest, rfl, hfirst, hrest⟩ := List.map_eq_append_iff.mp h
      obtain ⟨d, rfl⟩ := exists_eq_utf8EncodeChar hfirst
      obtain ⟨t, rfl⟩ := ih hrest
      exact ⟨d :: t, rfl⟩

theorem decode?_map_upperByte (bytes : List UInt8) :
    decode? (bytes.map upperByte) = (decode? bytes).map Text.asciiUpper := by
  cases h : decode? bytes with
  | some text =>
      obtain rfl := decode?_eq_some_iff.mp h
      rw [← encode_asciiUpper, decode?_encode, Option.map_some]
  | none =>
      rw [Option.map_none, Option.eq_none_iff_forall_ne_some]
      intro upper hupper
      obtain ⟨text, rfl⟩ := exists_eq_encode (decode?_eq_some_iff.mp hupper)
      rw [decode?_encode] at h
      cases h

/-! ### Lines -/

theorem dropReturn_asciiUpper (line : Text) :
    dropReturn (Text.asciiUpper line) = Text.asciiUpper (dropReturn line) :=
  dropTail_asciiUpper (by decide) line

theorem lastLine_asciiUpper (line : Text) :
    lastLine (Text.asciiUpper line) = (lastLine line).map Text.asciiUpper := by
  simp only [lastLine, asciiUpper_eq_nil_iff]
  split <;> rfl

theorem dropMark_map_asciiUpper (lines : List Text) :
    dropMark (lines.map Text.asciiUpper) = (dropMark lines).map Text.asciiUpper := by
  cases lines with
  | nil => rfl
  | cons line lines =>
      cases line with
      | nil => rfl
      | cons c line =>
          by_cases hc : c = '\uFEFF'
          · subst hc
            rfl
          · have hupper : c.toUpper ≠ '\uFEFF' := (toUpper_eq_iff (by decide)).not.mpr hc
            simp [dropMark, Text.asciiUpper, hc, hupper]

theorem decodeLines_map_upperByte (lines : List (List UInt8)) :
    decodeLines (lines.map (List.map upperByte)) =
      (decodeLines lines).map (List.map Text.asciiUpper) id := by
  induction lines with
  | nil => rfl
  | cons line lines ih =>
      rw [List.map_cons, decodeLines, decode?_map_upperByte, decodeLines]
      cases decode? line with
      | none => rfl
      | some text =>
          simp only [Option.map_some, dropReturn_asciiUpper, ih]
          rfl

theorem decodeLast_map_upperByte (line : List UInt8) (fault : Option ReadFault) :
    decodeLast (line.map upperByte) fault =
      (decodeLast line fault).map (List.map Text.asciiUpper) id := by
  cases fault with
  | some fault => rfl
  | none =>
      rw [decodeLast, decode?_map_upperByte, decodeLast]
      cases decode? line with
      | none => rfl
      | some text => simp [lastLine_asciiUpper]

/-- Reading commutes with the upper case of letters. -/
theorem ofSource_asciiUpper (source : Source) :
    ofSource source.asciiUpper = (ofSource source).asciiUpper := by
  have hparts := splitOn_map upperByte_eq_lineFeed_iff source.bytes
  have hlast (line : Option (List UInt8)) :
      (line.map (List.map upperByte)).getD [] = (line.getD []).map upperByte := by
    cases line <;> rfl
  simp only [ofSource, Source.asciiUpper, hparts, ← List.map_dropLast, List.getLast?_map, hlast,
    decodeLines_map_upperByte, decodeLast_map_upperByte]
  rcases decodeLines (source.bytes.splitOn 0x0A).dropLast with ⟨lines, _ | fault⟩
  · simp [asciiUpper, ← List.map_append, dropMark_map_asciiUpper]
  · simp [asciiUpper, dropMark_map_asciiUpper]

end Reading

end SqlScript
