import SqlScript.Listing
import SqlScript.Proofs.Text.Digits
import Mathlib.Data.List.TakeWhile

/-!
Colours of listings. Sequences of codes stand around headers only. So a listing without its
sequences is the listing without colours, as long as nothing that is listed holds the character that
starts a sequence. In JSON and YAML there are no colours, and the format is all that a style
decides.
-/

namespace SqlScript

open Text

namespace Colour

def escape : Char := '\x1b'

/-- A sequence of codes: the character that starts it, a bracket, the codes and an `m`. -/
def sequence (codes : Text) : Text := escape :: '[' :: codes ++ ['m']

/-- What follows the sequence that a text starts with, where `isCode` tells the characters that can
be codes. The first `m` ends a sequence. -/
def afterSequence? (isCode : Char → Bool) : Text → Option Text
  | '\x1b' :: '[' :: s =>
    match s.dropWhile fun c => c != 'm' && isCode c with
    | 'm' :: rest => some rest
    | _ => none
  | _ => none

theorem length_afterSequence? {isCode : Char → Bool} {s rest : Text}
    (h : afterSequence? isCode s = some rest) : rest.length < s.length := by
  unfold afterSequence? at h
  split at h
  · rename_i s
    have hdrop := (List.dropWhile_suffix (l := s) fun c => c != 'm' && isCode c).length_le
    split at h
    · rename_i more hmore
      cases h
      rw [hmore, List.length_cons] at hdrop
      simp only [List.length_cons]
      omega
    · cases h
  · cases h

def erase (isCode : Char → Bool) : Text → Text
  | [] => []
  | c :: s =>
    match h : afterSequence? isCode (c :: s) with
    | some rest =>
      have := length_afterSequence? h
      erase isCode rest
    | none => c :: erase isCode s
termination_by s => s.length
decreasing_by
  · exact this
  · exact Nat.lt_succ_self _

/-! ### Texts and sequences -/

section Erase

variable {isCode : Char → Bool}

@[simp] theorem erase_nil : erase isCode [] = [] := by
  rw [erase]

theorem erase_cons_of_ne {c : Char} (hc : c ≠ escape) (s : Text) :
    erase isCode (c :: s) = c :: erase isCode s := by
  have hnone : afterSequence? isCode (c :: s) = none := by
    unfold afterSequence?
    split
    · rename_i heq
      exact absurd (List.cons.inj heq).1 hc
    · rfl
  rw [erase]
  split
  · rename_i rest hrest
    rw [hnone] at hrest
    cases hrest
  · rfl

theorem erase_append_of_notMem {s : Text} (h : escape ∉ s) (t : Text) :
    erase isCode (s ++ t) = s ++ erase isCode t := by
  induction s with
  | nil => rfl
  | cons c s ih =>
      rw [List.mem_cons, not_or] at h
      rw [List.cons_append, erase_cons_of_ne (Ne.symm h.1), ih h.2, List.cons_append]

theorem erase_sequence_append {codes : Text} (h : ∀ c ∈ codes, c ≠ 'm' ∧ isCode c) (t : Text) :
    erase isCode (sequence codes ++ t) = erase isCode t := by
  have hcodes : ∀ c ∈ codes, (c != 'm' && isCode c) = true := by
    intro c hc
    simpa using h c hc
  have hafter : afterSequence? isCode (escape :: '[' :: (codes ++ 'm' :: t)) = some t := by
    simp [afterSequence?, escape, List.dropWhile_append_of_pos hcodes]
  have hsequence : sequence codes ++ t = escape :: '[' :: (codes ++ 'm' :: t) := by
    simp [sequence]
  rw [hsequence, erase]
  split
  · rename_i rest hrest
    rw [hafter] at hrest
    cases hrest
    rfl
  · rename_i hnone
    rw [hafter] at hnone
    cases hnone

/-- Digits and semicolons, which the codes of all colours consist of. -/
def isParameter (c : Char) : Bool := c.isDigit || c == ';'

theorem isParameter_of_mem_codes {colour : Colour} {c : Char} (h : c ∈ colour.codes) :
    c ≠ 'm' ∧ isParameter c := by
  have hall : colour.codes.all fun c => c != 'm' && isParameter c := by
    cases colour <;> rfl
  simpa using List.all_eq_true.mp hall c h

theorem erase_paint_append (hcode : ∀ c, isParameter c → isCode c) (colour : Colour) {s : Text}
    (hs : escape ∉ s) (t : Text) : erase isCode (colour.paint s ++ t) = s ++ erase isCode t := by
  have hcodes : ∀ c ∈ colour.codes, c ≠ 'm' ∧ isCode c := fun c hc =>
    ⟨(isParameter_of_mem_codes hc).1, hcode c (isParameter_of_mem_codes hc).2⟩
  have hoff : ∀ c ∈ ['0'], c ≠ 'm' ∧ isCode c := by
    simpa using hcode '0' (by decide)
  have hpaint : colour.paint s ++ t = sequence colour.codes ++ (s ++ (sequence ['0'] ++ t)) := by
    simp [paint, sequence, escape]
  rw [hpaint, erase_sequence_append hcodes, erase_append_of_notMem hs, erase_sequence_append hoff]

end Erase

end Colour

namespace Listing

open Colour (escape erase isParameter erase_nil erase_append_of_notMem erase_paint_append)

/-! ### Headers -/

theorem escape_notMem_ofNat (n : Nat) : escape ∉ ofNat n := notMem_ofNat (by decide) n

theorem escape_notMem_categoryLabel (category : Category) : escape ∉ category.label := by
  cases category <;> decide

theorem escape_notMem_kindLabel (kind : Kind) : escape ∉ kind.label := by
  cases kind <;> decide

theorem escape_notMem_statementHeader (style : ListingStyle) (position : Nat) (s : Statement) :
    escape ∉ statementHeader style position s := by
  have hmark : escape ∉ "Statement #".toList := by decide
  have hopen : escape ∉ " (".toList := by decide
  have hcomma : escape ∉ ", ".toList := by decide
  have hline : escape ∉ ") at line ".toList := by decide
  have hend : escape ∉ ":".toList ∧ escape ∉ "):".toList := by decide
  unfold statementHeader
  split <;>
    simp only [List.mem_append, not_or, hmark, hopen, hcomma, hline, hend, escape_notMem_ofNat,
      escape_notMem_categoryLabel, escape_notMem_kindLabel, not_false_eq_true, and_self]

theorem escape_notMem_queryHeader (startLine : Nat) :
    escape ∉ "Query at line ".toList ++ ofNat startLine ++ ":".toList := by
  have hstart : escape ∉ "Query at line ".toList := by decide
  have hend : escape ∉ ":".toList := by decide
  simp only [List.mem_append, not_or, hstart, hend, escape_notMem_ofNat, not_false_eq_true,
    and_self]

/-! ### Listings -/

section Erase

variable {isCode : Char → Bool} (hcode : ∀ c, isParameter c → isCode c) (verbose : Bool)

include hcode

theorem erase_header_append (colour : Colour) {s : Text} (hs : escape ∉ s) (t : Text) :
    erase isCode (header ⟨.text, true, verbose⟩ colour s ++ t) =
      header ⟨.text, false, verbose⟩ colour s ++ erase isCode t :=
  erase_paint_append hcode colour hs t

theorem erase_statementText_append (position : Nat) {s : Statement} (hs : escape ∉ s.text)
    (t : Text) :
    erase isCode (statementText ⟨.text, true, verbose⟩ position s ++ t) =
      statementText ⟨.text, false, verbose⟩ position s ++ erase isCode t := by
  have htext : ∀ style, statementText style position s =
      header style s.category.colour (statementHeader style position s) ++
        ('\n' :: s.text ++ "\n\n".toList) := by
    intro style
    rw [statementText, List.append_assoc]
  have hbody : escape ∉ '\n' :: s.text ++ "\n\n".toList := by
    have hend : escape ∉ "\n\n".toList := by decide
    simp only [List.cons_append, List.mem_cons, List.mem_append, not_or]
    exact ⟨by decide, hs, hend⟩
  have hheader := escape_notMem_statementHeader ⟨.text, true, verbose⟩ position s
  rw [htext, htext, List.append_assoc, erase_header_append hcode verbose _ hheader,
    erase_append_of_notMem hbody, ← List.append_assoc]
  rfl

theorem erase_queryText_append {q : QueryColumns} (hq : ∀ name ∈ q.columns, escape ∉ name)
    (t : Text) :
    erase isCode (queryText ⟨.text, true, verbose⟩ q ++ t) =
      queryText ⟨.text, false, verbose⟩ q ++ erase isCode t := by
  have hbody : escape ∉
      '\n' :: q.columns.flatMap fun name => "  ".toList ++ name ++ "\n".toList := by
    have hmargin : escape ∉ "  ".toList ∧ escape ∉ "\n".toList := by decide
    simp only [List.mem_cons, List.mem_flatMap, List.mem_append, not_or, not_exists, not_and]
    exact ⟨by decide, fun name hname => ⟨⟨hmargin.1, hq name hname⟩, hmargin.2⟩⟩
  rw [queryText, List.append_assoc, erase_header_append hcode verbose _
    (escape_notMem_queryHeader q.startLine), erase_append_of_notMem hbody, ← List.append_assoc]
  rfl

theorem erase_statementTexts {list : List Statement} (hlist : ∀ s ∈ list, escape ∉ s.text)
    (position : Nat) :
    erase isCode (statementTexts ⟨.text, true, verbose⟩ position list) =
      statementTexts ⟨.text, false, verbose⟩ position list := by
  induction list generalizing position with
  | nil => exact erase_nil
  | cons s list ih =>
      obtain ⟨hs, hlist⟩ := List.forall_mem_cons.mp hlist
      rw [statementTexts, erase_statementText_append hcode verbose position hs, ih hlist,
        statementTexts]

theorem erase_queryTexts {list : List QueryColumns}
    (hlist : ∀ q ∈ list, ∀ name ∈ q.columns, escape ∉ name) :
    erase isCode (list.flatMap (queryText ⟨.text, true, verbose⟩)) =
      list.flatMap (queryText ⟨.text, false, verbose⟩) := by
  induction list with
  | nil => exact erase_nil
  | cons q list ih =>
      obtain ⟨hq, hlist⟩ := List.forall_mem_cons.mp hlist
      rw [List.flatMap_cons, erase_queryText_append hcode verbose hq, ih hlist, List.flatMap_cons]

end Erase

/-- In a format other than text the listing is the same in all styles. -/
theorem eq_of_ne_text {format : Format} (h : format ≠ .text)
    (colored verbose colored' verbose' : Bool) (list : List Statement)
    (columns : List QueryColumns) :
    statements ⟨format, colored, verbose⟩ list = statements ⟨format, colored', verbose'⟩ list ∧
      queries ⟨format, colored, verbose⟩ columns =
        queries ⟨format, colored', verbose'⟩ columns := by
  cases format with
  | text => exact absurd rfl h
  | json => exact ⟨rfl, rfl⟩
  | yaml => exact ⟨rfl, rfl⟩

/-- Where nothing that is listed holds the character that starts a sequence of codes, a text listing
in colours is the one without them once its sequences are gone, whatever characters count as codes
besides digits and semicolons. In the other formats neither colours nor details of the headers make
a difference. -/
theorem erase_listing {isCode : Char → Bool} (hcode : ∀ c, isParameter c → isCode c)
    (list : List Statement) (columns : List QueryColumns) :
    ((∀ s ∈ list, escape ∉ s.text) → ∀ verbose,
      erase isCode (statements ⟨.text, true, verbose⟩ list) =
        statements ⟨.text, false, verbose⟩ list) ∧
    ((∀ q ∈ columns, ∀ name ∈ q.columns, escape ∉ name) → ∀ verbose,
      erase isCode (queries ⟨.text, true, verbose⟩ columns) =
        queries ⟨.text, false, verbose⟩ columns) ∧
    ∀ format, format ≠ .text → ∀ colored verbose colored' verbose',
      statements ⟨format, colored, verbose⟩ list = statements ⟨format, colored', verbose'⟩ list ∧
        queries ⟨format, colored, verbose⟩ columns =
          queries ⟨format, colored', verbose'⟩ columns := by
  refine ⟨fun htexts verbose => ?_, fun hnames verbose => ?_, fun format hformat => ?_⟩
  · exact erase_statementTexts hcode verbose htexts 1
  · exact erase_queryTexts hcode verbose hnames
  · intro colored verbose colored' verbose'
    exact eq_of_ne_text hformat colored verbose colored' verbose' list columns

/-- What looks like the rest of a sequence of codes stays where it is. -/
theorem erase_listing_tails :
    let list : List Statement :=
      [⟨.comment, "-- [0m", 1⟩, ⟨.query, "select 1 as m,\n'[1;36m'", 2⟩]
    let columns : List QueryColumns := [⟨2, ["m".toList, "[1;36m".toList]⟩]
    (∀ c, isParameter c → (fun _ : Char => true) c) ∧ (∀ s ∈ list, escape ∉ s.text) ∧
      (∀ q ∈ columns, ∀ name ∈ q.columns, escape ∉ name) ∧
      statements ⟨.text, true, true⟩ list =
        "\x1b[2mStatement #1 (COMMENT, comment) at line 1:\x1b[0m\n-- [0m\n\n".toList ++
          "\x1b[1;36mStatement #2 (SQL, query) at line 2:\x1b[0m\n".toList ++
          "select 1 as m,\n'[1;36m'\n\n".toList ∧
      erase (fun _ => true) (statements ⟨.text, true, true⟩ list) =
        "Statement #1 (COMMENT, comment) at line 1:\n-- [0m\n\n".toList ++
          "Statement #2 (SQL, query) at line 2:\nselect 1 as m,\n'[1;36m'\n\n".toList ∧
      erase (fun _ => true) (queries ⟨.text, true, true⟩ columns) =
        "Query at line 2:\n  m\n  [1;36m\n".toList ∧
      statements ⟨.yaml, true, true⟩ list = statements ⟨.yaml, false, false⟩ list := by
  intro list columns
  have hcode : ∀ c, isParameter c → (fun _ : Char => true) c := fun _ _ => rfl
  have htexts : ∀ s ∈ list, escape ∉ s.text := by decide +kernel
  have hnames : ∀ q ∈ columns, ∀ name ∈ q.columns, escape ∉ name := by decide +kernel
  obtain ⟨hstatements, hqueries, hothers⟩ := erase_listing hcode list columns
  refine ⟨hcode, htexts, hnames, by decide +kernel, ?_, ?_, ?_⟩
  · exact (hstatements htexts true).trans (by decide +kernel)
  · exact (hqueries hnames true).trans (by decide +kernel)
  · exact (hothers .yaml (by decide) true true false false).1

end Listing

end SqlScript
