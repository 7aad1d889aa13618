import SqlScript.Proofs.Query.Neighbours

/-!
Cutting a list into its expressions and joining them again. The cutting keeps every character that
is not blank, but for the commas at which it cuts. The expressions joined with commas are cut into
themselves: each begins and ends between boundaries in both texts, and all but the last leave
nothing open.
-/

namespace SqlScript.Query

open Text Enclosure

/-- Whether the space is the only white space in a text. -/
def IsSpaced (s : Text) : Prop := ∀ c ∈ s, isBlank c → c = ' '

instance (s : Text) : Decidable (IsSpaced s) := List.decidableBAll _ s

/-- The text without the occurrences of a separator at the top level. -/
def Marked.without (separator : Char) (m : Marked) : Text :=
  Marked.text (m.filter (· != ⟨separator, true⟩))

/-- Whether texts joined with commas are cut into themselves again. -/
def Separate : List Text → Prop
  | [] => True
  | part :: parts =>
    ⟨',', true⟩ ∉ mark part ∧ (parts ≠ [] → IsClosed part) ∧ Separate parts

/-! ### Spaces at the ends -/

theorem isBoundary_of_eq_space {c : Char} (h : c = ' ') : isBoundary (some c) := by
  rw [h]
  rfl

theorem isBoundary_head? {s : Text} (h : ∀ c ∈ s, c = ' ') : isBoundary s.head? := by
  cases s with
  | nil => rfl
  | cons c s => exact isBoundary_of_eq_space (h c List.mem_cons_self)

theorem advance_of_spaces (e : Enclosure) (previous next : Option Char) {s : Text}
    (h : ∀ c ∈ s, c = ' ') : e.advance previous s next = e := by
  induction s generalizing previous with
  | nil => rfl
  | cons c s ih =>
      rw [List.forall_mem_cons] at h
      rw [Enclosure.advance, step_of_isBoundary e (isBoundary_of_eq_space h.1), ih _ h.2]

section

variable {lead pad : Text} (hlead : ∀ c ∈ lead, c = ' ') (hpad : ∀ c ∈ pad, c = ' ')

include hlead in
theorem isClosed_append_left (s : Text) : IsClosed (lead ++ s) ↔ IsClosed s := by
  have hprevious : isBoundary (lead.getLast?.or none) = isBoundary none := by
    rcases List.eq_nil_or_concat lead with rfl | ⟨init, c, rfl⟩
    · rfl
    · rw [List.concat_eq_append, List.getLast?_concat]
      exact isBoundary_of_eq_space (hlead c (by simp))
  rw [IsClosed, advance_append, advance_of_spaces _ _ _ hlead, advance_congr hprevious rfl,
    IsClosed]

include hpad in
theorem isClosed_append_right (s : Text) : IsClosed (s ++ pad) ↔ IsClosed s := by
  have hnext : isBoundary (pad.head?.or none) = isBoundary none := by
    rw [Option.or_none]
    exact isBoundary_head? hpad
  rw [IsClosed, advance_append, advance_of_spaces _ _ _ hpad, advance_congr rfl hnext, IsClosed]

include hlead in
theorem mark_append_left (s : Text) : mark (lead ++ s) = mark lead ++ mark s := by
  induction lead with
  | nil => rfl
  | cons c lead ih =>
      rw [List.forall_mem_cons] at hlead
      have hc := isBoundary_of_eq_space hlead.1
      have hcons (t : Text) : mark (c :: t) = ⟨c, true⟩ :: mark t :=
        mark_append_cons hc (s := []) rfl t
      rw [List.cons_append, hcons, hcons, ih hlead.2, List.cons_append]

end

theorem exists_eq_append_trim_of_isSpaced {s : Text} (h : IsSpaced s) :
    ∃ lead pad, (∀ c ∈ lead, c = ' ') ∧ (∀ c ∈ pad, c = ' ') ∧ s = lead ++ trim s ++ pad := by
  obtain ⟨lead, pad, hlead, hpad, hs⟩ := exists_eq_append_trim_append s
  have hspaces : ∀ c ∈ lead ++ trim s ++ pad, isBlank c → c = ' ' := hs ▸ h
  rw [List.forall_mem_append, List.forall_mem_append] at hspaces
  exact ⟨lead, pad, fun c hc => hspaces.1.1 c hc (hlead c hc),
    fun c hc => hspaces.2 c hc (hpad c hc), hs⟩

theorem IsSpaced.trim {s : Text} (h : IsSpaced s) : IsSpaced (trim s) := by
  obtain ⟨lead, pad, -, -, hs⟩ := exists_eq_append_trim_append s
  intro c hc
  have hmem : c ∈ s := by
    rw [hs]
    simp [hc]
  exact h c hmem

theorem isClosed_trim {s : Text} (h : IsSpaced s) : IsClosed (trim s) ↔ IsClosed s := by
  obtain ⟨lead, pad, hlead, hpad, hs⟩ := exists_eq_append_trim_of_isSpaced h
  conv_rhs => rw [hs, isClosed_append_right hpad, isClosed_append_left hlead]

/-- Spaces at the ends of a text change none of the marks between them. -/
theorem exists_mark_eq {s : Text} (h : IsSpaced s) : ∃ before behind : Marked,
    mark s = before ++ mark (trim s) ++ behind ∧
      (∀ c ∈ Marked.text before, c = ' ') ∧ ∀ c ∈ Marked.text behind, c = ' ' := by
  obtain ⟨lead, pad, hlead, hpad, hs⟩ := exists_eq_append_trim_of_isSpaced h
  obtain ⟨behind, hmark, hbehind⟩ := exists_mark_append (lead ++ trim s) pad
  refine ⟨mark lead, behind, ?_, by rwa [text_mark], by rwa [hbehind]⟩
  conv_lhs => rw [hs, hmark, mark_append_left hlead]

theorem notMem_of_spaces {m : Marked} (h : ∀ c ∈ Marked.text m, c = ' ') : ⟨',', true⟩ ∉ m := by
  intro hmem
  have hcomma : ',' = ' ' := h ',' (List.mem_map_of_mem hmem)
  exact absurd hcomma (by decide)

theorem notMem_mark_trim {s : Text} (h : IsSpaced s) (hs : ⟨',', true⟩ ∉ mark s) :
    ⟨',', true⟩ ∉ mark (trim s) := by
  obtain ⟨before, behind, hmark, -, -⟩ := exists_mark_eq h
  rw [hmark] at hs
  exact fun hmem => hs (by simp [hmem])

/-- A list is cut at the same commas with the spaces at its ends. -/
theorem expressions_of_isSpaced {list : Text} (h : IsSpaced list) : expressions list =
    (((mark list).cut ',').map fun part => trim (Marked.text part)).filter
      fun e => !e.isEmpty := by
  obtain ⟨before, behind, hmark, hbefore, hbehind⟩ := exists_mark_eq h
  rw [expressions, hmark, Marked.trim_cut_append_right (notMem_of_spaces hbehind)
    (isBlankText_of_spaces hbehind), Marked.trim_cut_append_left (notMem_of_spaces hbefore)
    (isBlankText_of_spaces hbefore)]

/-! ### Conservation -/

theorem ink_flatten_map_trim (parts : List Text) :
    ink (parts.map trim).flatten = ink parts.flatten := by
  induction parts with
  | nil => rfl
  | cons part parts ih =>
      rw [List.map_cons, List.flatten_cons, List.flatten_cons, ink_append, ink_append, ink_trim, ih]

/-- The expressions hold the ink of the list, but for the commas at which it is cut. -/
theorem ink_flatten_expressions {list : Text} (h : IsSpaced list) :
    ink (expressions list).flatten = ink ((mark list).without ',') := by
  have hparts := ink_flatten_map_trim ((Marked.cut ',' (mark list)).map Marked.text)
  rw [List.map_map] at hparts
  rw [expressions_of_isSpaced h, List.flatten_filter_not_isEmpty, Marked.without,
    ← Marked.flatten_cut, Marked.text_flatten]
  exact hparts

/-! ### Separate texts -/

theorem exists_separate (list : Text) :
    ∃ parts, parts ≠ [] ∧ Separate parts ∧ join [','] parts = list := by
  -- The first comma at the top level leaves a shorter text behind it.
  induction hlength : list.length using Nat.strong_induction_on generalizing list with
  | _ length ih =>
  by_cases hcomma : ⟨',', true⟩ ∈ mark list
  · obtain ⟨part, rest, rfl, hclosed, hpart⟩ := exists_of_mem_mark rfl hcomma
    obtain ⟨parts, hne, hparts, hjoin⟩ := ih rest.length (by simp [← hlength]; omega) rest rfl
    refine ⟨part :: parts, List.cons_ne_nil _ _, ⟨hpart, fun _ => hclosed, hparts⟩, ?_⟩
    rw [join_cons hne, hjoin, List.append_assoc, List.singleton_append]
  · exact ⟨[list], List.cons_ne_nil _ _, ⟨hcomma, fun h => absurd rfl h, trivial⟩,
      join_singleton _ _⟩

namespace Separate

variable {parts : List Text}

theorem cut_mark (h : Separate parts) (hne : parts ≠ []) :
    Marked.cut ',' (mark (join [','] parts)) = parts.map mark := by
  induction parts with
  | nil => exact absurd rfl hne
  | cons part parts ih =>
      obtain ⟨hpart, hclosed, hparts⟩ := h
      by_cases hrest : parts = []
      · rw [hrest, join_singleton, Marked.cut_of_notMem hpart, List.map_singleton]
      · have hcomma : isBoundary (some ',') := rfl
        rw [join_cons hrest, List.append_assoc, List.singleton_append,
          mark_append_cons hcomma (hclosed hrest), Marked.cut_append_cons,
          Marked.cut_of_notMem hpart, ih hparts hrest, List.singleton_append, List.map_cons]

theorem map {f : Text → Text} (h : Separate parts)
    (hclosed : ∀ part ∈ parts, IsClosed part → IsClosed (f part))
    (hcomma : ∀ part ∈ parts, ⟨',', true⟩ ∉ mark part → ⟨',', true⟩ ∉ mark (f part)) :
    Separate (parts.map f) := by
  induction parts with
  | nil => trivial
  | cons part parts ih =>
      rw [List.forall_mem_cons] at hclosed hcomma
      refine ⟨hcomma.1 h.1, fun hne => hclosed.1 (h.2.1 ?_), ih h.2.2 hclosed.2 hcomma.2⟩
      rintro rfl
      exact hne rfl

theorem filter (h : Separate parts) (p : Text → Bool) : Separate (parts.filter p) := by
  induction parts with
  | nil => trivial
  | cons part parts ih =>
      by_cases hp : p part = true
      · rw [List.filter_cons_of_pos hp]
        refine ⟨h.1, fun hne => h.2.1 ?_, ih h.2.2⟩
        rintro rfl
        exact hne rfl
      · rw [List.filter_cons_of_neg hp]
        exact ih h.2.2

end Separate

/-- The expressions of a list are separate, and the space is the only white space in them. -/
theorem separate_expressions {list : Text} (h : IsSpaced list) :
    Separate (expressions list) ∧ ∀ e ∈ expressions list, IsSpaced e := by
  obtain ⟨parts, hne, hparts, rfl⟩ := exists_separate list
  have hspaced : ∀ part ∈ parts, IsSpaced part :=
    fun part hpart c hc => h c (mem_join_of_mem hpart hc)
  have heq : expressions (join [','] parts) = (parts.map trim).filter fun e => !e.isEmpty := by
    rw [expressions_of_isSpaced h, hparts.cut_mark hne, List.map_map]
    simp only [Function.comp_def, text_mark]
  rw [heq]
  refine ⟨(hparts.map ?_ ?_).filter _, ?_⟩
  · exact fun part hpart => (isClosed_trim (hspaced part hpart)).mpr
  · exact fun part hpart => notMem_mark_trim (hspaced part hpart)
  · intro e he
    obtain ⟨part, hpart, rfl⟩ := List.mem_map.mp (List.mem_of_mem_filter he)
    exact (hspaced part hpart).trim

theorem expressions_ne_nil_and_trim {list e : Text} (he : e ∈ expressions list) :
    e ≠ [] ∧ trim e = e := by
  obtain ⟨hmem, hne⟩ := List.mem_filter.mp he
  obtain ⟨part, -, rfl⟩ := List.mem_map.mp hmem
  exact ⟨by simpa using hne, trim_trim _⟩

theorem isSpaced_join {es : List Text} (h : ∀ e ∈ es, IsSpaced e) : IsSpaced (join ", " es) := by
  intro c hc hblank
  by_contra hspace
  have hcomma : c ∉ ", ".toList := by
    intro hmem
    have hne : c ≠ ',' := Nesting.ne_of_isBlank hblank (by decide)
    simp [hne, hspace] at hmem
  exact notMem_join hcomma (fun e he hmem => hspace (h e he c hmem hblank)) hc

/-- Separate texts behind a comma and a space each are separate behind a comma with a space in front
of all but the first. -/
theorem Separate.spaced {e : Text} {es : List Text} (h : Separate (e :: es)) :
    Separate (e :: es.map (' ' :: ·)) := by
  have hspace : ∀ c ∈ [' '], c = ' ' := by simp
  obtain ⟨he, hclosed, hes⟩ := h
  refine ⟨he, fun hne => hclosed (by simpa using hne), hes.map ?_ ?_⟩
  · exact fun part _ => (isClosed_append_left hspace part).mpr
  · intro part _ hpart
    have hmark : mark (' ' :: part) = mark [' '] ++ mark part := mark_append_left hspace part
    rw [hmark, List.mem_append, not_or]
    exact ⟨by decide, hpart⟩

/-- Separate texts are the expressions of the list that they make up. -/
theorem expressions_join {es : List Text} (hes : Separate es) (hspaced : ∀ e ∈ es, IsSpaced e)
    (htrim : ∀ e ∈ es, e ≠ [] ∧ trim e = e) : expressions (join ", " es) = es := by
  cases es with
  | nil => rfl
  | cons e es =>
      have hjoin : join ", " (e :: es) = join [','] (e :: es.map (' ' :: ·)) := by
        rw [join_cons_eq_flatMap, join_cons_eq_flatMap, List.flatMap_map]
        rfl
      have hparts : ((e :: es.map (' ' :: ·)).map fun part => trim part) = e :: es := by
        have hspace : IsBlankText [' '] := by decide
        obtain ⟨he, hrest⟩ := List.forall_mem_cons.mp htrim
        have hes : (es.map (' ' :: ·)).map (fun part => trim part) = es.map id := by
          rw [List.map_map]
          exact List.map_congr_left fun part hpart =>
            (trim_append_left part hspace).trans (hrest part hpart).2
        rw [List.map_cons, he.2, hes, List.map_id]
      rw [expressions_of_isSpaced (isSpaced_join hspaced), hjoin,
        hes.spaced.cut_mark (List.cons_ne_nil _ _), List.map_map]
      simp only [Function.comp_def, text_mark]
      rw [hparts]
      exact List.filter_eq_self.mpr fun e he => by simpa using (htrim e he).1

/-- Cutting a list loses nothing but the commas at which it is cut, and the expressions that it
gives are those of the list that they make up, whatever is left open in it. -/
theorem expressions_join_expressions (list : Text) (h : IsSpaced list) :
    (∀ e ∈ expressions list, e ≠ [] ∧ trim e = e) ∧
      ink (expressions list).flatten = ink ((mark list).without ',') ∧
      expressions (join ", " (expressions list)) = expressions list := by
  have htrim : ∀ e ∈ expressions list, e ≠ [] ∧ trim e = e :=
    fun e he => expressions_ne_nil_and_trim he
  obtain ⟨hseparate, hspaced⟩ := separate_expressions h
  exact ⟨htrim, ink_flatten_expressions h, expressions_join hseparate hspaced htrim⟩

/-- An empty piece, commas in a name, a literal and a parenthesis, a name with a character glued to
its end, and a parenthesis and a name that are never closed. -/
theorem expressions_join_expressions_open :
    let list := " a ,, \"b, c\" , d\"e\",',)', \"f,g\"h ( , x \"".toList
    IsSpaced list ∧ expressions list =
        ["a".toList, "\"b, c\"".toList, "d\"e\"".toList, "',)'".toList,
          "\"f,g\"h ( , x \"".toList] ∧
      ink (expressions list).flatten = ink ((mark list).without ',') ∧
      expressions (join ", " (expressions list)) = expressions list := by
  intro list
  have hspaced : IsSpaced list := by decide +kernel
  exact ⟨hspaced, by decide +kernel, (expressions_join_expressions list hspaced).2⟩

end SqlScript.Query
