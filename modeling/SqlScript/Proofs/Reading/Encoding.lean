import SqlScript.Proofs.Reading.Faults

/-!
Scripts as bytes. A stream can be read to its end exactly if it ends without a fault and its bytes
are some text in UTF-8, and then its lines are those of the text: a line feed is a byte of its own,
which no other character has among its bytes.
-/

namespace SqlScript.Reading

open Text

def encode (text : Text) : List UInt8 := text.flatMap String.utf8EncodeChar

@[simp] theorem encode_append (s t : Text) : encode (s ++ t) = encode s ++ encode t :=
  List.flatMap_append

theorem encode_lineFeed (s : Text) : encode ('\n' :: s) = 0x0A :: encode s := rfl

theorem mk_toArray_eq_toByteArray (bytes : List UInt8) :
    ByteArray.mk bytes.toArray = bytes.toByteArray := by
  apply ByteArray.ext
  rw [List.data_toByteArray]

theorem decode?_encode (text : Text) : decode? (encode text) = some text := by
  have hbytes : ByteArray.mk (encode text).toArray = text.utf8Encode :=
    mk_toArray_eq_toByteArray (encode text)
  rw [decode?, hbytes, List.utf8Decode?_utf8Encode]
  rfl

theorem eq_encode_of_decode? {bytes : List UInt8} {text : Text} (h : decode? bytes = some text) :
    bytes = encode text := by
  obtain ⟨chars, hchars, rfl⟩ := Option.map_eq_some_iff.mp h
  have hsome : (ByteArray.mk bytes.toArray).utf8Decode?.isSome := by rw [hchars]; rfl
  have hget : (ByteArray.mk bytes.toArray).utf8Decode?.get hsome = chars :=
    Option.get_of_mem hsome hchars
  have hbytes : chars.toList.utf8Encode = ByteArray.mk bytes.toArray :=
    hget ▸ ByteArray.utf8Encode_get_utf8Decode?
  rw [List.utf8Encode, mk_toArray_eq_toByteArray] at hbytes
  have hdata := congrArg ByteArray.data hbytes
  rw [List.data_toByteArray, List.data_toByteArray] at hdata
  exact (congrArg Array.toList hdata).symm

/-- Bytes are read as a text exactly if they are its encoding. -/
theorem decode?_eq_some_iff {bytes : List UInt8} {text : Text} :
    decode? bytes = some text ↔ bytes = encode text :=
  ⟨eq_encode_of_decode?, fun h => h ▸ decode?_encode text⟩

/-! ### The bytes of a line -/

theorem utf8EncodeChar_of_ascii {c : Char} (hc : ¬0x7F < c.toNat) :
    String.utf8EncodeChar c = [UInt8.ofNat c.toNat] := by
  have hsmall : c.val.toNat ≤ 127 := Nat.le_of_not_lt hc
  rw [String.utf8EncodeChar.eq_1, if_pos hsmall]
  rfl

theorem le_toNat_of_mem_utf8EncodeChar {c : Char} (hc : 0x7F < c.toNat) {b : UInt8}
    (hb : b ∈ String.utf8EncodeChar c) : 0x80 ≤ b.toNat := by
  have hlarge : ¬c.val.toNat ≤ 127 := Nat.not_le.mpr hc
  rw [String.utf8EncodeChar.eq_1, if_neg hlarge] at hb
  split at hb <;> try split at hb
  all_goals
    simp only [List.mem_cons, List.not_mem_nil, or_false] at hb
    rcases hb with rfl | rfl | rfl | rfl <;> simp only [UInt8.toNat_ofNat'] <;> omega

theorem eq_lineFeed_of_mem_utf8EncodeChar {c : Char} (h : 0x0A ∈ String.utf8EncodeChar c) :
    c = '\n' := by
  by_cases hc : 0x7F < c.toNat
  · exact absurd (le_toNat_of_mem_utf8EncodeChar hc h) (by decide)
  · rw [utf8EncodeChar_of_ascii hc, List.mem_singleton] at h
    have hcode := congrArg UInt8.toNat h
    simp only [UInt8.toNat_ofNat'] at hcode
    have hten : c.toNat = 10 := by
      change 10 = _ at hcode
      omega
    exact Char.ext (UInt32.toNat_inj.mp hten)

theorem lineFeed_notMem_encode {line : Text} (h : '\n' ∉ line) : 0x0A ∉ encode line := by
  intro hmem
  obtain ⟨c, hc, hfeed⟩ := List.mem_flatMap.mp hmem
  exact h (eq_lineFeed_of_mem_utf8EncodeChar hfeed ▸ hc)

/-! ### Reading to the end -/

theorem ofRest_encode_of_notMem {line : Text} (h : '\n' ∉ line) :
    ofRest ⟨encode line, none⟩ = ⟨lastLine line, none⟩ := by
  simp [ofRest, List.splitOn_eq_singleton (lineFeed_notMem_encode h), decodeLines, decodeLast,
    decode?_encode]

theorem ofRest_encode (text : Text) : ofRest ⟨encode text, none⟩ = ⟨linesAfter text, none⟩ := by
  obtain ⟨lines, last, hlines, hlast, rfl⟩ := exists_eq_unlines_append text
  induction lines with
  | nil =>
      rw [unlines_nil, List.nil_append, linesAfter_of_not_mem hlast]
      exact ofRest_encode_of_notMem hlast
  | cons line lines ih =>
      obtain ⟨hline, hmore⟩ := List.forall_mem_cons.mp hlines
      rw [unlines_cons, List.append_assoc, List.cons_append, encode_append, encode_lineFeed,
        ofRest_append (lineFeed_notMem_encode hline) (decode?_encode line), ih hmore,
        linesAfter_append hline]

/-- A text in UTF-8 is read as the text is. -/
theorem ofSource_encode (text : Text) : ofSource ⟨encode text, none⟩ = ofText text := by
  rw [ofSource_eq_ofRest, ofRest_encode, ofText, linesOf_eq_dropMark]

theorem ofSource_of_decode? {source : Source} {text : Text} (hfault : source.fault = none)
    (htext : decode? source.bytes = some text) : ofSource source = ofText text := by
  obtain ⟨bytes, fault⟩ := source
  obtain rfl : fault = none := hfault
  obtain rfl : bytes = encode text := decode?_eq_some_iff.mp htext
  exact ofSource_encode text

/-- By induction on the number of bytes: the first line is read, or it fails. -/
theorem exists_encode_of_fault_eq_none {bytes : List UInt8} {fault : Option ReadFault}
    (h : (ofRest ⟨bytes, fault⟩).fault = none) : fault = none ∧ ∃ text, bytes = encode text := by
  induction hlength : bytes.length using Nat.strong_induction_on generalizing bytes with
  | _ length ih =>
    by_cases hfeed : 0x0A ∈ bytes
    · obtain ⟨line, more, rfl, hline⟩ := List.eq_append_cons_of_mem hfeed
      cases hdecode : decode? line with
      | none =>
          rw [ofRest_of_failsWith (.complete more fault hline hdecode)] at h
          cases h
      | some text =>
          rw [ofRest_append hline hdecode] at h
          have hshorter : more.length < length := by
            rw [← hlength, List.length_append, List.length_cons]
            omega
          obtain ⟨hfault, rest, rfl⟩ := ih _ hshorter h rfl
          refine ⟨hfault, text ++ '\n' :: rest, ?_⟩
          rw [encode_append, encode_lineFeed, ← decode?_eq_some_iff.mp hdecode]
    · cases fault with
      | some fault =>
          rw [ofRest_of_failsWith (.interrupted fault hfeed)] at h
          cases h
      | none =>
          cases hdecode : decode? bytes with
          | none =>
              rw [ofRest_of_failsWith (.last hfeed hdecode)] at h
              cases h
          | some text => exact ⟨rfl, text, decode?_eq_some_iff.mp hdecode⟩

/-- A stream is read to its end exactly if it has no fault and its bytes are a text in UTF-8. -/
theorem fault_ofSource_eq_none_iff {source : Source} :
    (ofSource source).fault = none ↔
      source.fault = none ∧ ∃ text, decode? source.bytes = some text := by
  constructor
  · intro h
    rw [ofSource_eq_ofRest] at h
    obtain ⟨hfault, text, hbytes⟩ := exists_encode_of_fault_eq_none h
    exact ⟨hfault, text, decode?_eq_some_iff.mpr hbytes⟩
  · rintro ⟨hfault, text, htext⟩
    rw [ofSource_of_decode? hfault htext]
    rfl

end SqlScript.Reading
