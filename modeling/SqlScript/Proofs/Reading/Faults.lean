import SqlScript.Proofs.Reading.Lines

/-!
A stream that cannot be read to its end. Lines in UTF-8 are read whatever follows them, and nothing
is read from the line that fails on, so what has been read are the lines in front of it.
-/

namespace SqlScript.Reading

/-- The bytes of lines, with a line feed after each of them. -/
def unlineBytes (lines : List (List UInt8)) : List UInt8 := lines.flatMap (· ++ [0x0A])

/-- Whether bytes are one line in UTF-8. -/
def IsEncodedLine (line : List UInt8) : Prop := 0x0A ∉ line ∧ (decode? line).isSome

instance (line : List UInt8) : Decidable (IsEncodedLine line) :=
  inferInstanceAs (Decidable (_ ∧ _))

/-- Whether the next line of a stream cannot be read, and why: a complete line or the last one is
not UTF-8, or the stream has a fault before the line ends. -/
inductive FailsWith : Source → ReadFault → Prop where
  | complete {line : List UInt8} (more : List UInt8) (fault : Option ReadFault)
      (hline : 0x0A ∉ line) (hdecode : decode? line = none) :
      FailsWith ⟨line ++ 0x0A :: more, fault⟩ .notUtf8
  | last {line : List UInt8} (hline : 0x0A ∉ line) (hdecode : decode? line = none) :
      FailsWith ⟨line, none⟩ .notUtf8
  | interrupted {line : List UInt8} (fault : ReadFault) (hline : 0x0A ∉ line) :
      FailsWith ⟨line, some fault⟩ fault

/-- The reading of a stream that is not the start of a script, so that a mark is not dropped. -/
def ofRest (source : Source) : Reading :=
  let parts := source.bytes.splitOn 0x0A
  match decodeLines parts.dropLast with
  | (lines, some fault) => ⟨lines, some fault⟩
  | (lines, none) =>
    let (rest, fault) := decodeLast (parts.getLast?.getD []) source.fault
    ⟨lines ++ rest, fault⟩

theorem ofSource_eq_ofRest (source : Source) :
    ofSource source = ⟨dropMark (ofRest source).lines, (ofRest source).fault⟩ := by
  simp only [ofSource, ofRest]
  rcases decodeLines (source.bytes.splitOn 0x0A).dropLast with ⟨lines, _ | fault⟩ <;> rfl

theorem ofRest_of_failsWith {source : Source} {fault : ReadFault} (h : FailsWith source fault) :
    ofRest source = ⟨[], some fault⟩ := by
  cases h with
  | complete more fault hline hdecode =>
      have hne := List.splitOn_ne_nil 0x0A more
      simp [ofRest, List.splitOn_append_cons_self_of_not_mem hline,
        List.dropLast_cons_of_ne_nil hne, decodeLines, hdecode]
  | last hline hdecode =>
      simp [ofRest, List.splitOn_eq_singleton hline, decodeLines, decodeLast, hdecode]
  | interrupted fault hline =>
      simp [ofRest, List.splitOn_eq_singleton hline, decodeLines, decodeLast]

theorem ofRest_append {line : List UInt8} {text : Text} (hline : 0x0A ∉ line)
    (hdecode : decode? line = some text) (bytes : List UInt8) (fault : Option ReadFault) :
    ofRest ⟨line ++ 0x0A :: bytes, fault⟩ =
      ⟨dropReturn text :: (ofRest ⟨bytes, fault⟩).lines, (ofRest ⟨bytes, fault⟩).fault⟩ := by
  have hne := List.splitOn_ne_nil 0x0A bytes
  simp only [ofRest, List.splitOn_append_cons_self_of_not_mem hline,
    List.dropLast_cons_of_ne_nil hne, List.getLast?_cons_of_ne_nil hne, decodeLines, hdecode]
  rcases decodeLines (bytes.splitOn 0x0A).dropLast with ⟨lines, _ | unread⟩ <;> rfl

/-- Lines in UTF-8 are read whatever follows them. -/
theorem exists_ofRest_append {lines : List (List UInt8)} (h : ∀ line ∈ lines, IsEncodedLine line) :
    ∃ texts : List Text, texts.length = lines.length ∧ ∀ rest : Source,
      ofRest ⟨unlineBytes lines ++ rest.bytes, rest.fault⟩ =
        ⟨texts ++ (ofRest rest).lines, (ofRest rest).fault⟩ := by
  induction lines with
  | nil => exact ⟨[], rfl, fun rest => rfl⟩
  | cons line lines ih =>
      rw [List.forall_mem_cons] at h
      obtain ⟨texts, hlength, htexts⟩ := ih h.2
      obtain ⟨hline, hdecode⟩ := h.1
      obtain ⟨text, htext⟩ := Option.isSome_iff_exists.mp hdecode
      refine ⟨dropReturn text :: texts, by rw [List.length_cons, hlength, List.length_cons], ?_⟩
      intro rest
      have hbytes : unlineBytes (line :: lines) ++ rest.bytes =
          line ++ 0x0A :: (unlineBytes lines ++ rest.bytes) := by simp [unlineBytes]
      rw [hbytes, ofRest_append hline htext, htexts]
      rfl

@[simp] theorem length_dropMark (lines : List Text) : (dropMark lines).length = lines.length := by
  unfold dropMark
  split <;> rfl

/-- Where a line fails, the lines in front of it have been read as if the stream ended there. -/
theorem ofSource_of_failsWith {lines : List (List UInt8)} {rest : Source} {fault : ReadFault}
    (h : ∀ line ∈ lines, IsEncodedLine line) (hrest : FailsWith rest fault) :
    ∃ texts : List Text, texts.length = lines.length ∧
      ofSource ⟨unlineBytes lines, none⟩ = ⟨texts, none⟩ ∧
      ofSource ⟨unlineBytes lines ++ rest.bytes, rest.fault⟩ = ⟨texts, some fault⟩ := by
  obtain ⟨texts, hlength, htexts⟩ := exists_ofRest_append h
  have hend := htexts ⟨[], none⟩
  have hempty : ofRest ⟨[], none⟩ = ⟨[], none⟩ := by decide +kernel
  rw [hempty, List.append_nil, List.append_nil] at hend
  have hfault := htexts rest
  rw [ofRest_of_failsWith hrest, List.append_nil] at hfault
  refine ⟨dropMark texts, by rw [length_dropMark, hlength], ?_, ?_⟩
  · rw [ofSource_eq_ofRest, hend]
  · rw [ofSource_eq_ofRest, hfault]

end SqlScript.Reading
