import SqlScript.Proofs.Query.Neighbours

/-!
What the parts of a marked text tell about its cuts. The parts are trimmed and those without ink are
dropped, so two ways to cut a text could differ at separators with nothing but white space between
them. Neither of the two markings of a select list does so: white space and separators leave open
what is open. Then the parts are the same only if the cuts are.
-/

namespace SqlScript.Query

open Text

namespace Marked

/-- The texts between the separators at the top level, without white space at their ends and without
the empty ones. -/
def parts (separator : Char) (m : Marked) : List Text :=
  ((m.cut separator).map fun part => trim part.text).filter fun e => !e.isEmpty

/-- Whether the separators that only white space and other separators are in front of are at the top
level. -/
def BeginsOpen (separator : Char) : Marked → Prop
  | [] => True
  | a :: m =>
    (a.char = separator → a.top) ∧ (isBlank a.char ∨ a.char = separator → BeginsOpen separator m)

/-- Whether behind a separator at the top level the text begins at the top level. -/
def StaysOpen (separator : Char) (m : Marked) : Prop :=
  ∀ t, ⟨separator, true⟩ :: t <:+ m → BeginsOpen separator t

variable {separator : Char} {m m' lead lead' : Marked}

theorem StaysOpen.tail {a : Mark} (h : StaysOpen separator (a :: m)) : StaysOpen separator m :=
  fun t ht => h t (ht.trans (List.suffix_cons a m))

theorem parts_append_cons (separator : Char) (m m' : Marked) :
    parts separator (m ++ ⟨separator, true⟩ :: m') = parts separator m ++ parts separator m' := by
  rw [parts, cut_append_cons, List.map_append, List.filter_append, parts, parts]

theorem parts_of_blank (h : ⟨separator, true⟩ ∉ m) (hm : IsBlankText m.text) :
    parts separator m = [] := by
  rw [parts, cut_of_notMem h, List.map_singleton, trim_eq_nil_iff.mpr hm]
  rfl

theorem parts_of_not_blank (h : ⟨separator, true⟩ ∉ m) (hm : ¬IsBlankText m.text) :
    parts separator m = [trim m.text] := by
  have hne : trim m.text ≠ [] := mt trim_eq_nil_iff.mp hm
  rw [parts, cut_of_notMem h]
  simp [hne]

/-- A text with ink that holds no cut is the beginning of the first part. -/
theorem exists_parts_append (h : ⟨separator, true⟩ ∉ lead) (hlead : ¬IsBlankText lead.text)
    (m : Marked) :
    ∃ rest others, parts separator (lead ++ m) = trim (lead.text ++ rest) :: others := by
  have hcuts : cut separator m ≠ [] := List.splitOnP_ne_nil _ m
  obtain ⟨part, others, hcut⟩ := List.exists_cons_of_ne_nil hcuts
  have hne : trim (lead.text ++ part.text) ≠ [] := by
    intro hnil
    exact hlead (isBlankText_append.mp (trim_eq_nil_iff.mp hnil)).1
  refine ⟨part.text, (others.map fun part => trim part.text).filter fun e => !e.isEmpty, ?_⟩
  rw [parts, cut_append_of_notMem h, hcut, List.modifyHead_cons, List.map_cons, text_append,
    List.filter_cons_of_pos (by simpa using hne)]

section

variable (hsep : isBlank separator = false)

include hsep

theorem not_blank_append_cons (lead : Marked) (top : Bool) :
    ¬IsBlankText (text (lead ++ [⟨separator, top⟩])) := by
  intro h
  rw [text_append, isBlankText_append] at h
  have hblank := h.2 separator List.mem_cons_self
  rw [hsep] at hblank
  exact Bool.false_ne_true hblank

theorem notMem_of_blank (h : IsBlankText lead.text) : ⟨separator, true⟩ ∉ lead := fun hmem =>
  notMem_of_isBlankText hsep h (List.mem_map_of_mem hmem)

/-- No part begins with a separator in front of which everything is at the top level. -/
theorem parts_ne_separator_cons (hm : BeginsOpen separator m) (hlead : IsBlankText lead.text)
    (t : Text) (others : List Text) :
    parts separator (lead ++ m) ≠ (separator :: t) :: others := by
  have hnil : IsBlankText (text []) := isBlankText_nil
  induction m generalizing lead with
  | nil =>
      rw [List.append_nil, parts_of_blank (notMem_of_blank hsep hlead) hlead]
      exact (List.cons_ne_nil _ _).symm
  | cons a m ih =>
      obtain ⟨htop, hmore⟩ := hm
      obtain ⟨c, top⟩ := a
      by_cases hc : c = separator
      · obtain rfl : top = true := htop hc
        subst hc
        rw [parts_append_cons, parts_of_blank (notMem_of_blank hsep hlead) hlead]
        exact ih (hmore (.inr rfl)) hnil
      · rw [List.append_cons]
        by_cases hblank : isBlank c
        · have hc : IsBlankText (text [⟨c, top⟩]) := List.forall_mem_singleton.mpr hblank
          refine ih (hmore (.inl hblank)) ?_
          rw [text_append, isBlankText_append]
          exact ⟨hlead, hc⟩
        · have hink : ¬IsBlankText (text (lead ++ [⟨c, top⟩])) := by
            rw [text_append, isBlankText_append]
            exact fun h => hblank (h.2 c List.mem_cons_self)
          have hnone : ⟨separator, true⟩ ∉ lead ++ [⟨c, top⟩] := by
            rw [List.mem_append, List.mem_singleton, not_or]
            exact ⟨notMem_of_blank hsep hlead, fun h => hc (Mark.mk.inj h).1.symm⟩
          obtain ⟨rest, others', hparts⟩ := exists_parts_append hnone hink m
          have hfirst : trim (text (lead ++ [⟨c, top⟩]) ++ rest) = c :: trimEnd rest := by
            rw [text_append, List.append_assoc, trim_append_left _ hlead]
            exact trim_cons hblank rest
          rw [hparts, hfirst]
          intro heq
          exact hc (List.cons.inj (List.cons.inj heq).1).1

/-- The parts tell whether the next separator is a cut. -/
theorem parts_cut_ne (hm : BeginsOpen separator m) (hlead : ⟨separator, true⟩ ∉ lead)
    (hlead' : ⟨separator, true⟩ ∉ lead') (htext : lead.text = lead'.text) :
    parts separator (lead ++ ⟨separator, true⟩ :: m) ≠
      parts separator (lead' ++ ⟨separator, false⟩ :: m') := by
  have hnone : ⟨separator, true⟩ ∉ lead' ++ [⟨separator, false⟩] := by simpa using hlead'
  obtain ⟨rest, others, hparts⟩ :=
    exists_parts_append hnone (not_blank_append_cons hsep lead' false) m'
  rw [List.append_cons lead', hparts, parts_append_cons, text_append, ← htext, List.append_assoc]
  by_cases hblank : IsBlankText lead.text
  · -- The first part of the one begins with the separator, at which the other one is cut.
    rw [parts_of_blank hlead hblank, trim_append_left _ hblank, List.nil_append]
    have hfirst : trim (text [⟨separator, false⟩] ++ rest) = separator :: trimEnd rest :=
      trim_cons (by simp [hsep]) rest
    have hnil : IsBlankText (text []) := isBlankText_nil
    rw [hfirst]
    exact parts_ne_separator_cons hsep hm hnil _ _
  · -- The first part of the one ends where that of the other one has the separator.
    rw [parts_of_not_blank hlead hblank]
    intro heq
    have hink := congrArg ink (List.cons.inj heq).1
    rw [ink_trim, ink_trim, ink_append, ink_append] at hink
    have hone : ink (text [⟨separator, false⟩]) = [separator] := by
      simp [ink, text, hsep]
    have hlength := congrArg List.length hink
    rw [hone, List.length_append, List.length_append, List.length_singleton] at hlength
    omega

/-- Two markings of a text that give the same parts agree on the separators, if the parts in front
of the text are the same so far. -/
theorem agree_of_parts_append_eq (hm : StaysOpen separator m) (hm' : StaysOpen separator m')
    (htext : m.text = m'.text) (hlead : ⟨separator, true⟩ ∉ lead)
    (hlead' : ⟨separator, true⟩ ∉ lead') (hleads : lead.text = lead'.text)
    (h : parts separator (lead ++ m) = parts separator (lead' ++ m')) :
    Agree [separator] m m' := by
  induction m generalizing m' lead lead' with
  | nil =>
      obtain rfl : m' = [] := List.map_eq_nil_iff.mp htext.symm
      exact .nil
  | cons a m ih =>
      obtain ⟨a', m', rfl⟩ : ∃ a' rest, m' = a' :: rest := by
        refine List.exists_cons_of_ne_nil fun hnil => ?_
        rw [hnil] at htext
        exact List.cons_ne_nil _ _ htext
      obtain ⟨c, top⟩ := a
      obtain ⟨c', top'⟩ := a'
      rw [text_cons, text_cons, List.cons.injEq] at htext
      obtain ⟨rfl : c = c', htext⟩ := htext
      have hcut : c = separator → top = top' := by
        rintro rfl
        cases top <;> cases top'
        · rfl
        · exact absurd h.symm (parts_cut_ne hsep (hm' _ List.suffix_rfl) hlead' hlead hleads.symm)
        · exact absurd h (parts_cut_ne hsep (hm _ List.suffix_rfl) hlead hlead' hleads)
        · rfl
      refine .cons ⟨rfl, fun hmem => hcut (List.mem_singleton.mp hmem)⟩ ?_
      by_cases hend : c = separator ∧ top = true
      · -- Both are cut here, and the parts behind the cut are the same.
        obtain ⟨rfl, rfl⟩ := hend
        obtain rfl := hcut rfl
        have hfront : parts c lead = parts c lead' := by
          rw [parts, cut_of_notMem hlead, parts, cut_of_notMem hlead', List.map_singleton,
            List.map_singleton, hleads]
        rw [parts_append_cons, parts_append_cons, hfront] at h
        exact ih hm.tail hm'.tail htext List.not_mem_nil List.not_mem_nil rfl
          (List.append_cancel_left h)
      · -- Neither is cut here, so the character belongs to the part that has been begun.
        have hnot : (⟨c, top⟩ : Mark) ≠ ⟨separator, true⟩ := fun heq => hend (Mark.mk.inj heq)
        have hnot' : (⟨c, top'⟩ : Mark) ≠ ⟨separator, true⟩ := fun heq =>
          hend ⟨(Mark.mk.inj heq).1, (hcut (Mark.mk.inj heq).1).trans (Mark.mk.inj heq).2⟩
        rw [List.append_cons, List.append_cons lead'] at h
        refine ih hm.tail hm'.tail htext ?_ ?_ ?_ h
        · simpa [hlead] using hnot.symm
        · simpa [hlead'] using hnot'.symm
        · rw [text_append, text_append, hleads]
          rfl

/-- Two markings of a text give the same parts only if they agree on the separators. -/
theorem agree_of_parts_eq (hm : StaysOpen separator m) (hm' : StaysOpen separator m')
    (htext : m.text = m'.text) (h : parts separator m = parts separator m') :
    Agree [separator] m m' :=
  agree_of_parts_append_eq hsep hm hm' htext List.not_mem_nil List.not_mem_nil rfl h

end

theorem parts_eq_of_agree {separators : List Char} (h : Agree separators m m')
    (hmem : separator ∈ separators) : parts separator m = parts separator m' := by
  rw [parts, parts]
  congr 1
  exact map_eq_map_of_forall₂ (h.cut hmem) fun part part' hpart => by rw [hpart.text_eq]

end Marked

/-! ### The markings of a list -/

namespace Enclosure

theorem step_of_isBlank (e : Enclosure) {c : Char} (h : isBlank c) (previous next : Option Char) :
    e.step previous c next = e := by
  have hname : c ≠ '"' := Nesting.ne_of_isBlank h (by decide)
  have hliteral : c ≠ '\'' := Nesting.ne_of_isBlank h (by decide)
  have hopen : c ≠ '(' := Nesting.ne_of_isBlank h (by decide)
  have hclose : c ≠ ')' := Nesting.ne_of_isBlank h (by decide)
  simp only [step, hname, hliteral, hopen, hclose, false_and, if_false]

end Enclosure

theorem beginsOpen_markFrom (previous : Option Char) (s : Text) :
    Marked.BeginsOpen ',' (markFrom previous {} s) := by
  induction s generalizing previous with
  | nil => trivial
  | cons c s ih =>
      refine ⟨fun _ => rfl, fun h => ?_⟩
      have hstep : ({} : Enclosure).step previous c s.head? = {} := by
        rcases h with h | rfl
        · exact Enclosure.step_of_isBlank {} h previous _
        · exact Enclosure.step_of_isBoundary {} (by decide)
      rw [hstep]
      exact ih (some c)

theorem staysOpen_markFrom (previous : Option Char) (e : Enclosure) (s : Text) :
    Marked.StaysOpen ',' (markFrom previous e s) := by
  induction s generalizing previous e with
  | nil => exact fun t ht => absurd (List.suffix_nil.mp ht) (List.cons_ne_nil _ _)
  | cons c s ih =>
      intro t ht
      rcases List.suffix_cons_iff.mp ht with heq | htail
      · obtain ⟨hmark, rfl⟩ := List.cons.inj heq
        obtain ⟨rfl, htop⟩ := Mark.mk.inj hmark
        obtain rfl := Enclosure.isTop_iff.mp htop.symm
        rw [Enclosure.step_of_isBoundary {} (by decide)]
        exact beginsOpen_markFrom _ s
      · exact ih _ _ t htail

end SqlScript.Query

namespace SqlScript.Nesting

open Text Query

theorem isTop_iff {n : Nesting} : n.isTop ↔ n = {} := by
  obtain ⟨inLiteral, inIdentifier, depth⟩ := n
  simp [isTop, isQuoted, and_assoc]

theorem beginsOpen_mark (s : Text) : Marked.BeginsOpen ',' (({} : Nesting).mark s) := by
  induction s with
  | nil => trivial
  | cons c s ih =>
      refine ⟨fun _ => rfl, fun h => ?_⟩
      have hstep : ({} : Nesting).step c = {} := by
        rcases h with h | rfl
        · exact step_of_isBlank {} h
        · exact step_comma {}
      rw [hstep]
      exact ih

theorem staysOpen_mark (n : Nesting) (s : Text) : Marked.StaysOpen ',' (n.mark s) := by
  induction s generalizing n with
  | nil => exact fun t ht => absurd (List.suffix_nil.mp ht) (List.cons_ne_nil _ _)
  | cons c s ih =>
      intro t ht
      rcases List.suffix_cons_iff.mp ht with heq | htail
      · obtain ⟨hmark, rfl⟩ := List.cons.inj heq
        obtain ⟨rfl, htop⟩ := Mark.mk.inj hmark
        obtain rfl := isTop_iff.mp htop.symm
        rw [step_comma]
        exact beginsOpen_mark s
      · exact ih _ t htail

end SqlScript.Nesting
