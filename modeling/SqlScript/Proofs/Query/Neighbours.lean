import SqlScript.Proofs.Query.Marks

/-!
Marking a text part by part. A double quote looks at the character next to it, so what is open
behind a part depends on the characters around the part, but only on whether they are boundaries: a
space, comma or dot, or none at all. Between boundaries a part is marked as if it stood alone, if
nothing is open behind what is in front of it.
-/

namespace SqlScript.Query

open Text

namespace Enclosure

variable {previous previous' next next' : Option Char} {c : Char}

/-- What is open behind a text that stands between two characters. -/
def advance (e : Enclosure) (previous : Option Char) : Text → Option Char → Enclosure
  | [], _ => e
  | c :: s, next => (e.step previous c (s.head?.or next)).advance (some c) s next

theorem isTop_iff {e : Enclosure} : e.isTop ↔ e = {} := by
  obtain ⟨inQuote, inLiteral, depth⟩ := e
  simp [isTop, and_assoc]

theorem step_of_isBoundary (e : Enclosure) (hc : isBoundary (some c)) :
    e.step previous c next = e := by
  simp only [isBoundary, Bool.or_eq_true, beq_iff_eq] at hc
  rcases hc with (rfl | rfl) | rfl <;> simp [step]

theorem step_congr (hprevious : isBoundary previous = isBoundary previous')
    (hnext : isBoundary next = isBoundary next') (e : Enclosure) (c : Char) :
    e.step previous c next = e.step previous' c next' := by
  rw [step, step, hprevious, hnext]

theorem advance_congr (hprevious : isBoundary previous = isBoundary previous')
    (hnext : isBoundary next = isBoundary next') (e : Enclosure) (s : Text) :
    e.advance previous s next = e.advance previous' s next' := by
  induction s generalizing e previous previous' with
  | nil => rfl
  | cons c s ih =>
      have hbehind : isBoundary (s.head?.or next) = isBoundary (s.head?.or next') := by
        cases s with
        | nil => exact hnext
        | cons d s => rfl
      rw [advance, advance, step_congr hprevious hbehind, ih rfl]

theorem getLast?_cons_or (c : Char) (s : Text) (previous : Option Char) :
    (c :: s).getLast?.or previous = s.getLast?.or (some c) := by
  rw [List.getLast?_cons]
  cases s.getLast? <;> rfl

theorem advance_append (e : Enclosure) (previous : Option Char) (s t : Text)
    (next : Option Char) : e.advance previous (s ++ t) next =
      (e.advance previous s (t.head?.or next)).advance (s.getLast?.or previous) t next := by
  induction s generalizing e previous with
  | nil => rfl
  | cons c s ih =>
      rw [List.cons_append, advance, advance, ih, getLast?_cons_or, List.head?_append,
        Option.or_assoc]

end Enclosure

open Enclosure

theorem markFrom_append (previous : Option Char) (e : Enclosure) (s t : Text) :
    markFrom previous e (s ++ t) = markFrom previous e s ++
      markFrom (s.getLast?.or previous) (e.advance previous s t.head?) t := by
  induction s generalizing previous e with
  | nil => rfl
  | cons c s ih =>
      rw [List.cons_append, markFrom, markFrom, ih, getLast?_cons_or, List.head?_append]
      cases s <;> rfl

theorem exists_mark_append (s t : Text) : ∃ m, mark (s ++ t) = mark s ++ m ∧ Marked.text m = t :=
  ⟨_, markFrom_append none {} s t, text_markFrom _ _ t⟩

theorem markFrom_congr {previous previous' : Option Char}
    (h : isBoundary previous = isBoundary previous') (e : Enclosure) (s : Text) :
    markFrom previous e s = markFrom previous' e s := by
  cases s with
  | nil => rfl
  | cons c s => rw [markFrom, markFrom, step_congr h rfl]

@[simp] theorem length_markFrom (previous : Option Char) (e : Enclosure) (s : Text) :
    (markFrom previous e s).length = s.length := by
  conv_rhs => rw [← text_markFrom previous e s, Marked.text, List.length_map]

theorem mem_of_mem_markFrom {previous : Option Char} {e : Enclosure} {s : Text} {a : Mark}
    (h : a ∈ markFrom previous e s) : a.char ∈ s := by
  rw [← text_markFrom previous e s]
  exact List.mem_map_of_mem h

/-! ### Parts between boundaries -/

/-- Whether nothing is open behind a text between two boundaries. -/
def IsClosed (s : Text) : Prop := ({} : Enclosure).advance none s none = {}

instance (s : Text) : Decidable (IsClosed s) := inferInstanceAs (Decidable (_ = _))

section

variable {c : Char} (hc : isBoundary (some c))

include hc

/-- Behind a closed text the marks begin anew. -/
theorem mark_append_cons {s : Text} (hs : IsClosed s) (t : Text) :
    mark (s ++ c :: t) = mark s ++ ⟨c, true⟩ :: mark t := by
  have hopen : ({} : Enclosure).advance none s (some c) = {} :=
    (advance_congr rfl hc _ s).trans hs
  have hanew : markFrom (some c) {} t = mark t := markFrom_congr hc _ t
  rw [mark, markFrom_append, List.head?_cons, hopen, markFrom, step_of_isBoundary _ hc, hanew]
  rfl

/-- In front of a separator at the top level a text is closed. -/
theorem exists_of_mem_mark {s : Text} (h : ⟨c, true⟩ ∈ mark s) :
    ∃ a b, s = a ++ c :: b ∧ IsClosed a ∧ ⟨c, true⟩ ∉ mark a := by
  obtain ⟨m, m', hm, hnot⟩ := List.eq_append_cons_of_mem h
  have hs : s = Marked.text m ++ c :: Marked.text m' := by
    rw [← text_mark s, hm, Marked.text_append, Marked.text_cons]
  have hsplit : m ++ ⟨c, true⟩ :: m' = mark (Marked.text m) ++ markFrom _ _ (c :: Marked.text m') :=
    hm.symm.trans (hs ▸ markFrom_append none {} (Marked.text m) (c :: Marked.text m'))
  have hlength : m.length = (mark (Marked.text m)).length := by
    rw [mark, length_markFrom, Marked.text, List.length_map]
  obtain ⟨hfront, hback⟩ := List.append_inj hsplit hlength
  rw [markFrom, List.cons.injEq, Mark.mk.injEq] at hback
  refine ⟨_, _, hs, ?_, hfront ▸ hnot⟩
  exact (advance_congr rfl (by exact hc.symm) _ _).trans (isTop_iff.mp hback.1.2.symm)

end

end SqlScript.Query
