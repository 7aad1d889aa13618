import SqlScript.Scan
import SqlScript.Proofs.Text.Trimming

/-!
What one line does to a scan, by what can be read off the line: whether it only separates
statements, starts one, leaves an open one open or closes it.
-/

namespace SqlScript

open Text

namespace Delimiters

/-- `t` is the longest of the terminators that are not empty and end the line. -/
structure IsLongestEnd (terminators : List Text) (line t : Text) : Prop where
  mem : t ∈ terminators
  ne_nil : t ≠ []
  suffix : t <:+ line
  longest : ∀ u ∈ terminators, u <:+ line → u.length ≤ t.length

/-- What of a terminator stays in the text. -/
def kept (terminator : Text) : Text := if terminator = dollarQuote then "$$" else []

theorem kept_dollarQuote : kept dollarQuote = "$$".toList := if_pos rfl

theorem kept_of_ne {terminator : Text} (h : terminator ≠ dollarQuote) : kept terminator = [] :=
  if_neg h

theorem longestEnd?_eq_none_iff {terminators : List Text} {line : Text} :
    longestEnd? terminators line = none ↔ ∀ t ∈ terminators, t ≠ [] → ¬t <:+ line := by
  induction terminators with
  | nil => simp [longestEnd?]
  | cons t terminators ih =>
    rw [longestEnd?, List.foldr_cons, List.forall_mem_cons]
    split
    next h => simpa using fun hn => absurd h.2 (hn h.1)
    next h =>
      rw [← longestEnd?, ih]
      exact ⟨fun hu => ⟨fun hne hs => h ⟨hne, hs⟩, hu⟩, And.right⟩

theorem isLongestEnd_cons_self {terminators : List Text} {line t : Text} (hne : t ≠ [])
    (hsuffix : t <:+ line) (h : ∀ u ∈ terminators, u <:+ line → u.length ≤ t.length) :
    IsLongestEnd (t :: terminators) line t where
  mem := List.mem_cons_self
  ne_nil := hne
  suffix := hsuffix
  longest := List.forall_mem_cons.mpr ⟨fun _ => Nat.le_refl _, h⟩

theorem IsLongestEnd.cons {terminators : List Text} {line t u : Text}
    (h : IsLongestEnd terminators line t) (hu : u <:+ line → u.length ≤ t.length) :
    IsLongestEnd (u :: terminators) line t where
  mem := List.mem_cons_of_mem _ h.mem
  ne_nil := h.ne_nil
  suffix := h.suffix
  longest := List.forall_mem_cons.mpr ⟨hu, h.longest⟩

theorem isLongestEnd_of_longestEnd? {terminators : List Text} {line t : Text}
    (h : longestEnd? terminators line = some t) : IsLongestEnd terminators line t := by
  induction terminators generalizing t with
  | nil => simp [longestEnd?] at h
  | cons u terminators ih =>
    rw [longestEnd?, List.foldr_cons, ← longestEnd?] at h
    split at h
    next hu =>
      obtain rfl := Option.some.inj h
      -- The first terminator gives way only to a longer one among the others.
      cases hbest : longestEnd? terminators line with
      | none =>
        refine isLongestEnd_cons_self hu.1 hu.2 fun v hv hs => ?_
        have hnil : v = [] := by
          by_contra hne
          exact longestEnd?_eq_none_iff.mp hbest v hv hne hs
        simp [hnil]
      | some best =>
        have hb := ih hbest
        by_cases hlt : u.length < best.length
        · rw [longer, if_pos hlt]
          exact hb.cons fun _ => hlt.le
        · rw [longer, if_neg hlt]
          exact isLongestEnd_cons_self hu.1 hu.2 fun v hv hs =>
            (hb.longest v hv hs).trans (Nat.le_of_not_lt hlt)
    next hu =>
      refine (ih h).cons fun hs => ?_
      have hnil : u = [] := by
        by_contra hne
        exact hu ⟨hne, hs⟩
      simp [hnil]

theorem longestEnd?_eq_some_iff {terminators : List Text} {line t : Text} :
    longestEnd? terminators line = some t ↔ IsLongestEnd terminators line t := by
  refine ⟨isLongestEnd_of_longestEnd?, fun h => ?_⟩
  cases hbest : longestEnd? terminators line with
  | none => exact absurd h.suffix (longestEnd?_eq_none_iff.mp hbest t h.mem h.ne_nil)
  | some best =>
    have hb := isLongestEnd_of_longestEnd? hbest
    have hlen := Nat.le_antisymm (h.longest best hb.mem hb.suffix) (hb.longest t h.mem h.suffix)
    have hsuffix : best <:+ t := List.suffix_of_suffix_length_le hb.suffix h.suffix hlen.le
    rw [hsuffix.eq_of_length hlen]

theorem withoutEnd_append (rest terminator : Text) :
    withoutEnd terminator (rest ++ terminator) = trim (rest ++ kept terminator) := by
  by_cases h : terminator = dollarQuote
  · subst h
    have hlen : (rest ++ dollarQuote).length - 1 = (rest ++ ("$$" : Text)).length := by
      simp [dollarQuote]
    have hcut : rest ++ dollarQuote = (rest ++ ("$$" : Text)) ++ [';'] := by simp [dollarQuote]
    rw [withoutEnd, if_pos rfl, hlen, hcut, List.take_left', kept, if_pos rfl]
    rfl
  · simp [withoutEnd, kept, h]

theorem isSeparatorLine_iff {d : Delimiters} {line : Text} :
    d.isSeparatorLine line = true ↔ line ∈ d.sqlLines ∨ line ∈ d.psqlLines := by
  simp [isSeparatorLine]

end Delimiters

open Delimiters

theorem Draft.text_eq_join (separator : Text) (draft : Draft) (rest : Text) :
    draft.text separator rest = join separator (draft.lines.reverse ++ [rest]) := by
  rw [← flatMap_append_eq_join, Draft.text]
  induction draft.lines generalizing rest with
  | nil => rfl
  | cons line lines ih => rw [List.foldl_cons, ih]; simp

namespace Dialect

variable {d : Dialect} {line : Text}

/-- A line that only separates statements where none is open. -/
def Separates (d : Dialect) (line : Text) : Prop :=
  trim line = [] ∨ trim line ∈ d.delimiters.sqlLines ∨ trim line ∈ d.delimiters.psqlLines

/-- A first line whose keywords decide about the statement. -/
structure Classifies (d : Dialect) (line : Text) : Prop where
  begins : ¬d.Separates line
  notComment : d.delimiters.isComment (trim line) = false
  notCallEscape : isCallEscape (trim line) = false

/-- The kind that the keywords of a first line stand for. -/
@[irreducible] def kindAt (d : Dialect) (line : Text) : Kind := d.keywords.classify (trim line)

/-- A line without a closing end. -/
def HasNoEnd (d : Dialect) (category : Category) (line : Text) : Prop :=
  ∀ t ∈ d.delimiters.closingEnds category, t ≠ [] → ¬t <:+ trim line

theorem close_eq_join (draft : Draft) (rest : Text) :
    d.close draft rest = ⟨draft.kind,
      trimEnd (join d.delimiters.lineSeparator (draft.lines.reverse ++ [rest])),
      draft.startLine⟩ := by
  rw [close, Draft.text_eq_join]

/-! ### The first line -/

theorem separates_iff : d.Separates line ↔
    trim line = [] ∨ d.delimiters.isSeparatorLine (trim line) = true := by
  rw [Separates, isSeparatorLine_iff]

theorem start_of_separates (number : Nat) (h : d.Separates line) : d.start number line = .idle := by
  simp only [start, if_pos (separates_iff.mp h)]

theorem start_of_comment (number : Nat) (h : ¬d.Separates line)
    (hc : d.delimiters.isComment (trim line) = true) :
    d.start number line = .closed ⟨.comment, trimEnd line, number⟩ := by
  simp only [start, if_neg (separates_iff.not.mp h), if_pos hc]

theorem start_of_callEscape (number : Nat) (h : ¬d.Separates line)
    (hc : d.delimiters.isComment (trim line) = false) (he : isCallEscape (trim line) = true) :
    d.start number line = .closed ⟨.callable, trim line, number⟩ := by
  simp [start, if_neg (separates_iff.not.mp h), hc, he]

theorem start_of_command (number : Nat) (h : d.Classifies line)
    (hk : (d.kindAt line).category = .command ∨ (d.kindAt line).category = .comment) :
    d.start number line =
      .closed ⟨d.kindAt line, trimEnd (dropTail ";" (trim line)), number⟩ := by
  simp only [start, if_neg (separates_iff.not.mp h.begins), h.notComment, h.notCallEscape]
  rcases hk with hk | hk <;> simp [kindAt] at hk <;> simp [kindAt, hk]

theorem start_of_body (number : Nat) (h : d.Classifies line)
    (hk : (d.kindAt line).category = .sql ∨ (d.kindAt line).category = .psql) :
    d.start number line = d.append ⟨d.kindAt line, [], number⟩ line := by
  simp only [start, if_neg (separates_iff.not.mp h.begins), h.notComment, h.notCallEscape]
  rcases hk with hk | hk <;> simp [kindAt] at hk <;> simp [kindAt, hk]

/-! ### A further line -/

theorem append_of_hasNoEnd (draft : Draft) (h : d.HasNoEnd draft.kind.category line) :
    d.append draft line = .pending { draft with lines := line :: draft.lines } := by
  simp only [append, longestEnd?_eq_none_iff.mpr h]

theorem append_of_isLongestEnd (draft : Draft) {t : Text}
    (h : IsLongestEnd (d.delimiters.closingEnds draft.kind.category) (trim line) t) :
    d.append draft line = .closed (d.close draft (withoutEnd t (trim line))) := by
  simp only [append, longestEnd?_eq_some_iff.mpr h]

theorem resume_of_closes (draft : Draft)
    (h : trim line ∈ d.delimiters.closingLines draft.kind.category) :
    d.resume draft line = .closed (d.close draft (kept (trim line))) := by
  simp only [resume, List.contains_iff_mem.mpr h, if_true]
  rfl

theorem resume_of_not_closes (draft : Draft)
    (h : trim line ∉ d.delimiters.closingLines draft.kind.category) :
    d.resume draft line = d.append draft line := by
  simp [resume, h]

end Dialect

end SqlScript
