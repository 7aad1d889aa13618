import SqlScript.Query.Expression
import SqlScript.Query.Nesting
import SqlScript.Proofs.Text.Trimming
import Mathlib.Data.List.Forall2

/-!
Cutting a marked text. Where two markings of a text agree on the separators, they are cut into the
same texts. The marks that the nesting of a query gives can be taken from a text part by part, and
white space at its ends only lengthens the parts there.
-/

namespace SqlScript

open Text

namespace Query.Marked

/-- Whether two marked texts have the same characters, and the same marks at the separators. -/
def Agree (separators : List Char) (m m' : Marked) : Prop :=
  List.Forall₂ (fun a b => a.char = b.char ∧ (a.char ∈ separators → a.top = b.top)) m m'

theorem map_eq_map_of_forall₂ {α β γ : Type} {R : α → β → Prop} {f : α → γ} {g : β → γ}
    {xs : List α} {ys : List β} (h : List.Forall₂ R xs ys) (hfg : ∀ x y, R x y → f x = g y) :
    xs.map f = ys.map g := by
  induction h with
  | nil => rfl
  | cons hxy _ ih => rw [List.map_cons, List.map_cons, hfg _ _ hxy, ih]

@[simp] theorem text_cons (a : Mark) (m : Marked) : text (a :: m) = a.char :: text m := rfl

@[simp] theorem text_append (m m' : Marked) : text (m ++ m') = text m ++ text m' :=
  List.map_append

theorem Agree.text_eq {separators : List Char} {m m' : Marked} (h : Agree separators m m') :
    text m = text m' := by
  induction h with
  | nil => rfl
  | cons hab _ ih => rw [text_cons, text_cons, hab.1, ih]

theorem agree_of_notMem {separators : List Char} {m m' : Marked} (htext : text m = text m')
    (h : ∀ c ∈ text m, c ∉ separators) : Agree separators m m' := by
  induction m generalizing m' with
  | nil =>
      obtain rfl : m' = [] := List.map_eq_nil_iff.mp htext.symm
      exact .nil
  | cons a m ih =>
      obtain ⟨b, m', rfl, hchar, htext⟩ := List.map_eq_cons_iff.mp htext.symm
      rw [text_cons, List.forall_mem_cons] at h
      exact .cons ⟨hchar.symm, fun hmem => absurd hmem h.1⟩ (ih htext.symm h.2)

theorem cut_cons (separator : Char) (a : Mark) (m : Marked) :
    cut separator (a :: m) = if a = ⟨separator, true⟩ then [] :: cut separator m
      else (cut separator m).modifyHead (a :: ·) := by
  simp only [cut, List.splitOnP_cons_eq_if_modifyHead, beq_iff_eq]

theorem cut_append_cons (separator : Char) (m m' : Marked) :
    cut separator (m ++ ⟨separator, true⟩ :: m') = cut separator m ++ cut separator m' :=
  List.splitOnP_append_cons m m' (beq_self_eq_true _)

theorem cut_of_notMem {separator : Char} {m : Marked} (h : ⟨separator, true⟩ ∉ m) :
    cut separator m = [m] := by
  refine List.splitOnP_eq_singleton fun a ha => ?_
  exact beq_eq_false_iff_ne.mpr fun he => h (he ▸ ha)

theorem flatten_cut (separator : Char) (m : Marked) :
    (cut separator m).flatten = m.filter (· != ⟨separator, true⟩) :=
  Text.flatten_splitOnP _ m

theorem text_flatten (parts : List Marked) : text parts.flatten = (parts.map text).flatten :=
  List.map_flatten

theorem afterLast_of_notMem {separator : Char} {m : Marked} (h : ⟨separator, true⟩ ∉ m) :
    afterLast separator m = m := by
  rw [afterLast, cut_of_notMem h]
  rfl

theorem afterLast_append_cons (separator : Char) (m m' : Marked) :
    afterLast separator (m ++ ⟨separator, true⟩ :: m') = afterLast separator m' := by
  have hne : cut separator m' ≠ [] := List.splitOnP_ne_nil _ _
  rw [afterLast, cut_append_cons, List.getLast?_append_of_ne_nil _ hne, afterLast]

/-- The tokens of a marked expression: its parts between spaces, less what is in front of the last
dot of each. -/
def tokens (m : Marked) : List Text :=
  ((m.cut ' ').map fun part => (part.afterLast '.').text).filter fun t => !t.isEmpty

theorem tokens_nil : tokens [] = [] := rfl

theorem tokens_append_cons (m m' : Marked) :
    tokens (m ++ ⟨' ', true⟩ :: m') = tokens m ++ tokens m' := by
  rw [tokens, cut_append_cons, List.map_append, List.filter_append, tokens, tokens]

theorem tokens_of_notMem {m : Marked} (hne : text m ≠ []) (hspace : ⟨' ', true⟩ ∉ m)
    (hdot : ⟨'.', true⟩ ∉ m) : tokens m = [text m] := by
  rw [tokens, cut_of_notMem hspace, List.map_singleton, afterLast_of_notMem hdot]
  simp [hne]

theorem Agree.cut {separators : List Char} {separator : Char} {m m' : Marked}
    (h : Agree separators m m') (hmem : separator ∈ separators) :
    List.Forall₂ (Agree separators) (Marked.cut separator m) (Marked.cut separator m') := by
  induction h with
  | nil => exact .cons .nil .nil
  | @cons a b m m' hab _ ih =>
      obtain ⟨hchar, htop⟩ := hab
      have hsame : a = ⟨separator, true⟩ ↔ b = ⟨separator, true⟩ := by
        cases a
        cases b
        simp only [Mark.mk.injEq] at hchar htop ⊢
        rw [← hchar]
        exact and_congr_right fun hc => by rw [htop (hc ▸ hmem)]
      rw [cut_cons, cut_cons]
      by_cases hcut : a = ⟨separator, true⟩
      · rw [if_pos hcut, if_pos (hsame.mp hcut)]
        exact .cons .nil ih
      · rw [if_neg hcut, if_neg (mt hsame.mpr hcut)]
        revert ih
        generalize Marked.cut separator m = parts, Marked.cut separator m' = parts'
        rintro (_ | ⟨hhead, htail⟩)
        · exact .nil
        · exact .cons (.cons ⟨hchar, htop⟩ hhead) htail

/-! ### White space at the ends -/

theorem cut_append_of_notMem {separator : Char} {lead : Marked} (h : ⟨separator, true⟩ ∉ lead)
    (m : Marked) : cut separator (lead ++ m) = (cut separator m).modifyHead (lead ++ ·) := by
  induction lead with
  | nil =>
      rw [List.nil_append]
      generalize cut separator m = parts
      cases parts <;> rfl
  | cons a lead ih =>
      rw [List.mem_cons, not_or] at h
      rw [List.cons_append, cut_cons, if_neg (Ne.symm h.1), ih h.2, List.modifyHead_modifyHead]
      rfl

/-- What is in front of a dot in the first token does not show in the tokens. -/
theorem tokens_append_dot {lead : Marked} (h : ⟨' ', true⟩ ∉ lead) (m : Marked) :
    tokens (lead ++ ⟨'.', true⟩ :: m) = tokens m := by
  have hdot : ⟨' ', true⟩ ∉ lead ++ [⟨'.', true⟩] := by simpa using h
  rw [List.append_cons, tokens, cut_append_of_notMem hdot, tokens]
  cases cut ' ' m with
  | nil => rfl
  | cons part parts =>
      rw [List.modifyHead_cons, List.map_cons, List.map_cons, List.append_assoc,
        List.singleton_append, afterLast_append_cons]

/-- White space in front of a text does not show in its trimmed parts. -/
theorem trim_cut_append_left {separator : Char} {lead : Marked} (h : ⟨separator, true⟩ ∉ lead)
    (hlead : IsBlankText lead.text) (m : Marked) :
    (cut separator (lead ++ m)).map (fun part => trim part.text) =
      (cut separator m).map fun part => trim part.text := by
  rw [cut_append_of_notMem h]
  cases cut separator m with
  | nil => rfl
  | cons part parts =>
      rw [List.modifyHead_cons, List.map_cons, List.map_cons, text_append,
        trim_append_left _ hlead]

/-- White space behind a text only lengthens its last part. -/
theorem cut_append_blank {separator : Char} {pad : Marked} (h : ⟨separator, true⟩ ∉ pad)
    (hpad : IsBlankText pad.text) (m : Marked) :
    List.Forall₂ (fun part padded => ∃ blank, IsBlankText blank ∧
      text padded = text part ++ blank) (cut separator m) (cut separator (m ++ pad)) := by
  induction m with
  | nil =>
      rw [List.nil_append, cut_of_notMem h]
      exact .cons ⟨pad.text, hpad, rfl⟩ .nil
  | cons a m ih =>
      rw [List.cons_append, cut_cons, cut_cons]
      by_cases hcut : a = ⟨separator, true⟩
      · rw [if_pos hcut, if_pos hcut]
        exact .cons ⟨[], isBlankText_nil, rfl⟩ ih
      · rw [if_neg hcut, if_neg hcut]
        revert ih
        generalize cut separator m = parts, cut separator (m ++ pad) = padded
        rintro (_ | ⟨⟨blank, hblank, htext⟩, htail⟩)
        · exact .nil
        · exact .cons ⟨blank, hblank, by rw [text_cons, htext, text_cons]; rfl⟩ htail

theorem trim_cut_append_right {separator : Char} {pad : Marked} (h : ⟨separator, true⟩ ∉ pad)
    (hpad : IsBlankText pad.text) (m : Marked) :
    (cut separator (m ++ pad)).map (fun part => trim part.text) =
      (cut separator m).map fun part => trim part.text := by
  refine (map_eq_map_of_forall₂ (cut_append_blank h hpad m) fun part padded => ?_).symm
  rintro ⟨blank, hblank, htext⟩
  rw [htext, trim_append_right _ hblank]

end Query.Marked

/-! ### The marks of the nesting -/

namespace Nesting

def isTop (n : Nesting) : Bool := !n.isQuoted && n.depth == 0

def mark (n : Nesting) : Text → Query.Marked
  | [] => []
  | c :: s => ⟨c, n.isTop⟩ :: (n.step c).mark s

/-- Whether each character of a text that begins where `n` is open has the property, which may
depend on what is open in front of the character. -/
def Everywhere (P : Nesting → Char → Prop) (n : Nesting) : Text → Prop
  | [] => True
  | c :: s => P n c ∧ (n.step c).Everywhere P s

instance (P : Nesting → Char → Prop) [∀ n c, Decidable (P n c)] (n : Nesting) (s : Text) :
    Decidable (n.Everywhere P s) :=
  match s with
  | [] => .isTrue trivial
  | c :: s => @instDecidableAnd _ _ _ (instDecidableEverywhere P (n.step c) s)

@[simp] theorem text_mark (n : Nesting) (s : Text) : (n.mark s).text = s := by
  induction s generalizing n with
  | nil => rfl
  | cons c s ih => rw [mark, Query.Marked.text_cons, ih]

theorem mark_append (n : Nesting) (s t : Text) :
    n.mark (s ++ t) = n.mark s ++ (n.advance s).mark t := by
  induction s generalizing n with
  | nil => rfl
  | cons c s ih => rw [List.cons_append, mark, ih, advance_cons, mark, List.cons_append]

theorem ne_of_isBlank {c d : Char} (h : isBlank c) (hd : isBlank d = false) : c ≠ d := by
  rintro rfl
  rw [hd] at h
  exact Bool.false_ne_true h

theorem step_of_isBlank (n : Nesting) {c : Char} (h : isBlank c) : n.step c = n := by
  have hliteral : c ≠ '\'' := ne_of_isBlank h (by decide)
  have hidentifier : c ≠ '"' := ne_of_isBlank h (by decide)
  have hopen : c ≠ '(' := ne_of_isBlank h (by decide)
  have hclose : c ≠ ')' := ne_of_isBlank h (by decide)
  simp only [step, hliteral, hidentifier, hopen, hclose, false_and, if_false]

theorem advance_of_isBlankText (n : Nesting) {s : Text} (h : IsBlankText s) : n.advance s = n := by
  induction s with
  | nil => rfl
  | cons c s ih =>
      rw [IsBlankText, List.forall_mem_cons] at h
      rw [advance_cons, step_of_isBlank n h.1, ih h.2]

@[simp] theorem advance_trimStart (n : Nesting) (s : Text) :
    n.advance (trimStart s) = n.advance s := by
  obtain ⟨lead, hlead, hs⟩ := exists_eq_append_trimStart s
  conv_rhs => rw [hs, advance_append, advance_of_isBlankText n hlead]

@[simp] theorem isTop_start : ({} : Nesting).isTop = true := rfl

@[simp] theorem step_comma (n : Nesting) : n.step ',' = n := by simp [step]

theorem step_quote_start : ({} : Nesting).step '"' = ⟨false, true, 0⟩ := by decide

theorem step_quote_inIdentifier : (⟨false, true, 0⟩ : Nesting).step '"' = {} := by decide

/-- Within a name only a double quote opens or closes anything. -/
theorem step_of_inIdentifier (depth : Int) {c : Char} (h : c ≠ '"') :
    (⟨false, true, depth⟩ : Nesting).step c = ⟨false, true, depth⟩ := by
  simp [step, isQuoted, h]

theorem advance_of_inIdentifier {s : Text} (depth : Int) (h : '"' ∉ s) :
    (⟨false, true, depth⟩ : Nesting).advance s = ⟨false, true, depth⟩ := by
  induction s with
  | nil => rfl
  | cons c s ih =>
      rw [List.mem_cons, not_or] at h
      rw [advance_cons, step_of_inIdentifier depth (Ne.symm h.1), ih h.2]

theorem mark_of_inIdentifier {s : Text} (depth : Int) (h : '"' ∉ s) :
    (⟨false, true, depth⟩ : Nesting).mark s = s.map fun c => ⟨c, false⟩ := by
  induction s with
  | nil => rfl
  | cons c s ih =>
      rw [List.mem_cons, not_or] at h
      rw [mark, step_of_inIdentifier depth (Ne.symm h.1), ih h.2, List.map_cons]
      rfl

theorem mem_of_mem_mark {n : Nesting} {s : Text} {a : Query.Mark} (h : a ∈ n.mark s) :
    a.char ∈ s := by
  rw [← text_mark n s]
  exact List.mem_map_of_mem h

theorem everywhere_append {P : Nesting → Char → Prop} {n : Nesting} {s t : Text} :
    n.Everywhere P (s ++ t) ↔ n.Everywhere P s ∧ (n.advance s).Everywhere P t := by
  induction s generalizing n with
  | nil => exact (and_iff_right trivial).symm
  | cons c s ih => rw [List.cons_append, Everywhere, ih, Everywhere, advance_cons, and_assoc]

theorem Everywhere.trimStart {P : Nesting → Char → Prop} {n : Nesting} {s : Text}
    (h : n.Everywhere P s) : n.Everywhere P (trimStart s) := by
  obtain ⟨lead, hlead, hs⟩ := exists_eq_append_trimStart s
  rw [hs, everywhere_append, advance_of_isBlankText n hlead] at h
  exact h.2

theorem Everywhere.mono {P Q : Nesting → Char → Prop} (hPQ : ∀ n c, P n c → Q n c) {n : Nesting}
    {s : Text} (h : n.Everywhere P s) : n.Everywhere Q s := by
  induction s generalizing n with
  | nil => trivial
  | cons c s ih => exact ⟨hPQ n c h.1, ih h.2⟩

theorem everywhere_of_forall {P : Nesting → Char → Prop} {s : Text} (h : ∀ c ∈ s, ∀ n, P n c)
    (n : Nesting) : n.Everywhere P s := by
  induction s generalizing n with
  | nil => trivial
  | cons c s ih =>
      rw [List.forall_mem_cons] at h
      exact ⟨h.1 n, ih h.2 (n.step c)⟩

theorem notMem_mark_of_everywhere {separator : Char} {n : Nesting} {s : Text}
    (h : n.Everywhere (fun n c => c = separator → !n.isTop) s) : ⟨separator, true⟩ ∉ n.mark s := by
  induction s generalizing n with
  | nil => exact List.not_mem_nil
  | cons c s ih =>
      rw [mark, List.mem_cons, not_or]
      refine ⟨fun heq => ?_, ih h.2⟩
      obtain ⟨rfl, htop⟩ := Query.Mark.mk.inj heq
      have hnot := h.1 rfl
      rw [← htop] at hnot
      exact Bool.false_ne_true hnot

end Nesting

end SqlScript
