import SqlScript.Proofs.Reading.LetterCase
import SqlScript.Scan

/-!
Scripts in upper case. If no delimiter has a letter, upper-casing the letters a to z of a script
moves no boundary: each line makes the same of what came before it, so a scan of the upper-cased
script gives the statements of the script, with their texts in upper case.
-/

namespace SqlScript

open Text

/-! ### Phrases -/

namespace Phrase

theorem isWordChar_toUpper (c : Char) : isWordChar c.toUpper = isWordChar c :=
  apply_toUpper (by decide) c

theorem isCommandMarker_toUpper (c : Char) : isCommandMarker c.toUpper = isCommandMarker c :=
  apply_toUpper (by decide) c

theorem isEscapeMarker_toUpper (c : Char) : isEscapeMarker c.toUpper = isEscapeMarker c :=
  apply_toUpper (by decide) c

theorem keywordPart_asciiUpper (w : Text) :
    keywordPart (asciiUpper w) = asciiUpper (keywordPart w) := by
  cases w with
  | nil => rfl
  | cons c s =>
      have hrest : ((s.map Char.toUpper).takeWhile isWordChar) =
          (s.takeWhile isWordChar).map Char.toUpper := takeWhile_asciiUpper isWordChar_toUpper s
      simp only [asciiUpper, List.map_cons, keywordPart, isWordChar_toUpper,
        isCommandMarker_toUpper, hrest]
      split <;> rfl

theorem keywordPart_prefix_self (w : Text) : keywordPart w <+: w := by
  cases w with
  | nil => exact List.prefix_rfl
  | cons c s =>
      rw [keywordPart]
      split
      · exact (List.cons_prefix_cons).mpr ⟨rfl, List.takeWhile_prefix _⟩
      · exact List.nil_prefix

/-- A word is a keyword to its end in either case, as its keyword part is a beginning of it. -/
theorem asciiUpper_keywordPart_eq_iff (w : Text) :
    asciiUpper (keywordPart w) = asciiUpper w ↔ keywordPart w = w := by
  refine ⟨fun h => (keywordPart_prefix_self w).eq_of_length ?_, congrArg asciiUpper⟩
  simpa using congrArg List.length h

theorem leadingKeywords_map_asciiUpper (ws : List Text) :
    leadingKeywords (ws.map asciiUpper) = leadingKeywords ws := by
  induction ws with
  | nil => rfl
  | cons w ws ih =>
      simp only [List.map_cons, leadingKeywords, keywordPart_asciiUpper, asciiUpper_eq_nil_iff,
        asciiUpper_keywordPart_eq_iff, asciiUpper_asciiUpper, ih]

theorem leading_asciiUpper (line : Text) : leading (asciiUpper line) = leading line := by
  have hclass (c : Char) : (isBlank c.toUpper || isEscapeMarker c.toUpper) =
      (isBlank c || isEscapeMarker c) := by rw [isBlank_toUpper, isEscapeMarker_toUpper]
  rw [leading, dropWhile_asciiUpper hclass, words_asciiUpper, ← List.map_take,
    leadingKeywords_map_asciiUpper, leading]

end Phrase

theorem Keywords.classify_asciiUpper (keywords : Keywords) (line : Text) :
    keywords.classify (asciiUpper line) = keywords.classify line := by
  have hend : (trimEnd (asciiUpper line)).getLast? = some ';' ↔
      (trimEnd line).getLast? = some ';' := by
    rw [trimEnd_asciiUpper, asciiUpper, List.getLast?_map]
    exact map_toUpper_eq_some_iff (by decide)
  simp only [classify, Phrase.leading_asciiUpper, hend]

/-! ### Delimiters -/

theorem isCallEscape_asciiUpper (line : Text) :
    isCallEscape (asciiUpper line) = isCallEscape line := by
  have hbody : trimEnd (dropTail ";" (asciiUpper line)) =
      asciiUpper (trimEnd (dropTail ";" line)) := by
    rw [dropTail_asciiUpper (by decide), trimEnd_asciiUpper]
  have hopen : '{'.isAlpha ≠ true := by decide
  have hclose : '}'.isAlpha ≠ true := by decide
  rw [isCallEscape, hbody, isCallEscape, Bool.eq_iff_iff]
  simp only [Bool.and_eq_true, decide_eq_true_eq, beq_iff_eq, length_asciiUpper]
  rw [asciiUpper, List.head?_map, List.getLast?_map, map_toUpper_eq_some_iff hopen,
    map_toUpper_eq_some_iff hclose]

namespace Delimiters

/-- Whether no delimiter has a letter from A to Z. -/
structure IsCaseless (d : Delimiters) : Prop where
  sqlLines : ∀ t ∈ d.sqlLines, Text.IsCaseless t
  psqlLines : ∀ t ∈ d.psqlLines, Text.IsCaseless t
  sqlEnds : ∀ t ∈ d.sqlEnds, Text.IsCaseless t
  psqlEnds : ∀ t ∈ d.psqlEnds, Text.IsCaseless t
  commentMarks : ∀ t ∈ d.commentMarks, Text.IsCaseless t
  lineSeparator : Text.IsCaseless d.lineSeparator

/-- The delimiters that are used by default are marks. -/
theorem isCaseless_default : IsCaseless {} := by
  constructor <;> decide

theorem longestEnd?_asciiUpper {terminators : List Text}
    (h : ∀ t ∈ terminators, Text.IsCaseless t) (line : Text) :
    longestEnd? terminators (asciiUpper line) = longestEnd? terminators line := by
  induction terminators with
  | nil => rfl
  | cons t terminators ih =>
      obtain ⟨ht, hmore⟩ := List.forall_mem_cons.mp h
      have hrest := ih hmore
      simp only [longestEnd?] at hrest
      simp only [longestEnd?, List.foldr_cons, hrest, suffix_asciiUpper_iff ht]

theorem withoutEnd_asciiUpper (terminator line : Text) :
    withoutEnd terminator (asciiUpper line) = asciiUpper (withoutEnd terminator line) := by
  rw [withoutEnd, length_asciiUpper, take_asciiUpper, trim_asciiUpper, withoutEnd]

namespace IsCaseless

variable {d : Delimiters} (h : d.IsCaseless)

include h

theorem closingLines (category : Category) : ∀ t ∈ d.closingLines category, Text.IsCaseless t := by
  cases category with
  | sql => exact h.sqlLines
  | psql => exact h.psqlLines
  | command | comment => exact fun t ht => absurd ht List.not_mem_nil

theorem closingEnds (category : Category) : ∀ t ∈ d.closingEnds category, Text.IsCaseless t := by
  cases category with
  | sql => exact h.sqlEnds
  | psql => exact h.psqlEnds
  | command | comment => exact fun t ht => absurd ht List.not_mem_nil

theorem isComment_asciiUpper (line : Text) : d.isComment (asciiUpper line) = d.isComment line := by
  rw [Bool.eq_iff_iff]
  simp only [isComment, List.any_eq_true, Bool.and_eq_true, List.isPrefixOf_iff_prefix]
  refine exists_congr fun mark => and_congr_right fun hmark => ?_
  rw [prefix_asciiUpper_iff (h.commentMarks mark hmark)]

theorem isSeparatorLine_asciiUpper (line : Text) :
    d.isSeparatorLine (asciiUpper line) = d.isSeparatorLine line := by
  rw [isSeparatorLine, contains_asciiUpper h.sqlLines, contains_asciiUpper h.psqlLines,
    isSeparatorLine]

end IsCaseless

end Delimiters

/-! ### Statements and drafts -/

def Statement.asciiUpper (s : Statement) : Statement := { s with text := Text.asciiUpper s.text }

def Draft.asciiUpper (draft : Draft) : Draft :=
  { draft with lines := draft.lines.map Text.asciiUpper }

def Progress.asciiUpper : Progress → Progress
  | .idle => .idle
  | .pending draft => .pending draft.asciiUpper
  | .closed s => .closed s.asciiUpper

def Scan.asciiUpper (scan : Scan) : Scan where
  closed := scan.closed.map fun (s, line) => (s.asciiUpper, line)
  pending := scan.pending.map Draft.asciiUpper

def Outcome.asciiUpper : Outcome → Outcome
  | .statement s => .statement s.asciiUpper
  | .failure f => .failure f
  | .finished => .finished

/-- By induction on the lines, each of which goes in front of the rest. -/
theorem Draft.text_asciiUpper {separator : Text} (h : Text.IsCaseless separator) (draft : Draft)
    (rest : Text) : draft.asciiUpper.text separator (Text.asciiUpper rest) =
      Text.asciiUpper (draft.text separator rest) := by
  obtain ⟨kind, lines, startLine⟩ := draft
  simp only [Draft.asciiUpper, Draft.text]
  induction lines generalizing rest with
  | nil => rfl
  | cons line lines ih =>
      have hline : Text.asciiUpper line ++ separator ++ Text.asciiUpper rest =
          Text.asciiUpper (line ++ separator ++ rest) := by
        rw [asciiUpper_append, asciiUpper_append, asciiUpper_of_isCaseless h]
      rw [List.map_cons, List.foldl_cons, List.foldl_cons, hline, ih]

namespace Dialect

variable {d : Dialect} (h : d.delimiters.IsCaseless)

include h

/-! ### One line -/

theorem close_asciiUpper (draft : Draft) (rest : Text) :
    d.close draft.asciiUpper (asciiUpper rest) = (d.close draft rest).asciiUpper := by
  rw [close, Draft.text_asciiUpper h.lineSeparator, trimEnd_asciiUpper]
  rfl

theorem append_asciiUpper (draft : Draft) (line : Text) :
    d.append draft.asciiUpper (asciiUpper line) = (d.append draft line).asciiUpper := by
  have hend : Delimiters.longestEnd? (d.delimiters.closingEnds draft.asciiUpper.kind.category)
      (trim (asciiUpper line)) =
        Delimiters.longestEnd? (d.delimiters.closingEnds draft.kind.category) (trim line) := by
    rw [trim_asciiUpper, Delimiters.longestEnd?_asciiUpper (h.closingEnds _)]
    rfl
  rw [append, hend, append]
  cases Delimiters.longestEnd? (d.delimiters.closingEnds draft.kind.category) (trim line) with
  | none => rfl
  | some t =>
      simp only [trim_asciiUpper, Delimiters.withoutEnd_asciiUpper, close_asciiUpper h,
        Progress.asciiUpper]

theorem start_asciiUpper (number : Nat) (line : Text) :
    d.start number (asciiUpper line) = (d.start number line).asciiUpper := by
  simp only [start, trim_asciiUpper, asciiUpper_eq_nil_iff, h.isSeparatorLine_asciiUpper,
    h.isComment_asciiUpper, isCallEscape_asciiUpper, Keywords.classify_asciiUpper]
  split
  · rfl
  split
  · rw [trimEnd_asciiUpper]
    rfl
  split
  · rfl
  have hsemicolon : Text.IsCaseless ";" := by decide
  cases (d.keywords.classify (trim line)).category with
  | command | comment =>
      simp only [dropTail_asciiUpper hsemicolon, trimEnd_asciiUpper]
      rfl
  | sql | psql => exact append_asciiUpper h ⟨d.keywords.classify (trim line), [], number⟩ line

theorem resume_asciiUpper (draft : Draft) (line : Text) :
    d.resume draft.asciiUpper (asciiUpper line) = (d.resume draft line).asciiUpper := by
  have hdollar : Text.IsCaseless Delimiters.dollarQuote := by decide
  have hkept : (if trim line = Delimiters.dollarQuote then ("$$" : Text) else "") =
      asciiUpper (if trim line = Delimiters.dollarQuote then "$$" else "") := by
    split <;> rfl
  have hcloses : (d.delimiters.closingLines draft.asciiUpper.kind.category).contains
      (asciiUpper (trim line)) =
        (d.delimiters.closingLines draft.kind.category).contains (trim line) :=
    contains_asciiUpper (h.closingLines draft.kind.category) (trim line)
  simp only [resume, trim_asciiUpper, asciiUpper_eq_iff hdollar, hcloses]
  split
  · have hclose := (congrArg (d.close draft.asciiUpper) hkept).trans (close_asciiUpper h draft _)
    exact congrArg Progress.closed hclose
  · exact append_asciiUpper h draft line

theorem advance_asciiUpper (number : Nat) (line : Text) (pending : Option Draft) :
    d.advance number (asciiUpper line) (pending.map Draft.asciiUpper) =
      (d.advance number line pending).asciiUpper := by
  cases pending with
  | none => exact start_asciiUpper h number line
  | some draft => exact resume_asciiUpper h draft line

/-! ### The run -/

/-- The run lemma: the lines in upper case close the statements that the lines close. -/
theorem scanFrom_asciiUpper (number : Nat) (pending : Option Draft) (lines : List Text) :
    d.scanFrom number (pending.map Draft.asciiUpper) (lines.map asciiUpper) =
      (d.scanFrom number pending lines).asciiUpper := by
  induction lines generalizing number pending with
  | nil => rfl
  | cons line lines ih =>
      rw [List.map_cons, scanFrom, advance_asciiUpper h, scanFrom]
      cases d.advance (number + 1) line pending with
      | idle => exact ih (number + 1) none
      | pending draft => exact ih (number + 1) (some draft)
      | closed s =>
          have hrest := ih (number + 1) none
          rw [Option.map_none] at hrest
          simp only [Progress.asciiUpper, hrest]
          rfl

theorem scan_asciiUpper (lines : List Text) :
    d.scan (lines.map asciiUpper) = (d.scan lines).asciiUpper :=
  scanFrom_asciiUpper h 0 none lines

theorem ending_asciiUpper (count : Nat) (pending : Option Draft) (fault : Option ReadFault) :
    d.ending count (pending.map Draft.asciiUpper) fault =
      (d.ending count pending fault).map Outcome.asciiUpper := by
  cases fault with
  | some fault => rfl
  | none =>
      cases pending with
      | none => rfl
      | some draft =>
          have hclose : d.close draft.asciiUpper [] = (d.close draft []).asciiUpper :=
            close_asciiUpper h draft []
          simp only [ending, Option.map_some, hclose]
          rfl

theorem outcomes_reading_asciiUpper (reading : Reading) :
    d.outcomes reading.asciiUpper =
      (d.outcomes reading).map fun (outcome, line) => (outcome.asciiUpper, line) := by
  simp only [outcomes, Reading.asciiUpper, scan_asciiUpper h, Scan.asciiUpper, List.length_map,
    ending_asciiUpper h, List.map_append, List.map_map]
  rfl

omit h in
/-- If no delimiter has a letter, the script in upper case gives the outcomes of the script, with
the texts of its statements in upper case. -/
theorem outcomes_asciiUpper (d : Dialect) (source : Source) (h : d.delimiters.IsCaseless) :
    d.outcomes (.ofSource source.asciiUpper) =
      (d.outcomes (.ofSource source)).map fun (outcome, line) => (outcome.asciiUpper, line) := by
  rw [Reading.ofSource_asciiUpper, outcomes_reading_asciiUpper h]

omit h in
/-- The keyword that decides about `begin;` is found in either case, and so is the end of a query
over two lines; a letter that is not in ASCII stays as it is. -/
theorem outcomes_asciiUpper_script :
    let d : Dialect := ⟨{}, ⟨[(["SELECT"], .query), (["BEGIN"], .block)]⟩⟩
    let source : Source := ⟨Reading.encode "begin;\n-- Größe\nselect a\nfrom t;\n", none⟩
    d.delimiters.IsCaseless ∧
      d.outcomes (.ofSource source.asciiUpper) =
        (d.outcomes (.ofSource source)).map (fun (outcome, line) => (outcome.asciiUpper, line)) ∧
      d.outcomes (.ofSource source.asciiUpper) =
        [(.statement ⟨.transaction, "BEGIN", 1⟩, 1), (.statement ⟨.comment, "-- GRößE", 2⟩, 2),
          (.statement ⟨.query, "SELECT A\nFROM T", 3⟩, 4), (.finished, 4)] := by
  refine ⟨Delimiters.isCaseless_default, outcomes_asciiUpper _ _ Delimiters.isCaseless_default, ?_⟩
  rw [Reading.ofSource_asciiUpper, Reading.ofSource_encode]
  decide +kernel

end Dialect

end SqlScript
