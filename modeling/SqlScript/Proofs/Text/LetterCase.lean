import SqlScript.Proofs.Text.Trimming
import SqlScript.Text.Case

/-!
What upper-casing the letters a to z does to a text. It keeps every character within its class, so
it can be done before or after the text is trimmed or cut into words; and a text without letters is
found in the upper-cased text where it was found before. The upper case of Unicode is the same if it
leaves the characters outside ASCII alone.
-/

namespace SqlScript.Text

/-! ### Characters -/

/-- The letters from a to z, counted from zero. -/
def lowerLetter (n : Nat) : Char := Char.ofNat (97 + n)

theorem toUpper_cases (c : Char) : (∃ n < 26, c = lowerLetter n) ∨ c.toUpper = c := by
  by_cases hc : 'a'.val ≤ c.val ∧ c.val ≤ 'z'.val
  · have hlow : 97 ≤ c.toNat := UInt32.le_iff_toNat_le.mp hc.1
    have hhigh : c.toNat ≤ 122 := UInt32.le_iff_toNat_le.mp hc.2
    refine .inl ⟨c.toNat - 97, by omega, ?_⟩
    rw [lowerLetter, Nat.add_sub_cancel' hlow, Char.ofNat_toNat]
  · exact .inr (dif_neg hc)

/-- A property of characters does not see their case if it does not see the case of 26 letters. -/
theorem apply_toUpper {α : Type} {f : Char → α}
    (h : ∀ n < 26, f (lowerLetter n).toUpper = f (lowerLetter n)) (c : Char) :
    f c.toUpper = f c := by
  rcases toUpper_cases c with ⟨n, hn, rfl⟩ | hc
  · exact h n hn
  · rw [hc]

theorem toUpper_toUpper (c : Char) : c.toUpper.toUpper = c.toUpper :=
  apply_toUpper (by decide) c

theorem isBlank_toUpper (c : Char) : isBlank c.toUpper = isBlank c :=
  apply_toUpper (by decide) c

theorem toUpper_of_not_ascii {c : Char} (hc : 0x7F < c.toNat) : c.toUpper = c := by
  have hascii : ∀ n < 26, (lowerLetter n).toNat ≤ 0x7F := by decide
  rcases toUpper_cases c with ⟨n, hn, rfl⟩ | h
  · exact absurd hc (Nat.not_lt.mpr (hascii n hn))
  · exact h

/-- A character that is no letter is the upper case of itself only. -/
theorem toUpper_eq_iff {c d : Char} (hd : ¬d.isAlpha) : c.toUpper = d ↔ c = d := by
  have hletters : ∀ n < 26, (lowerLetter n).isAlpha ∧ (lowerLetter n).toUpper.isAlpha := by decide
  rcases toUpper_cases c with ⟨n, hn, rfl⟩ | hc
  · obtain ⟨hlow, hup⟩ := hletters n hn
    exact ⟨fun h => absurd (h ▸ hup) hd, fun h => absurd (h ▸ hlow) hd⟩
  · rw [hc]

theorem map_toUpper_eq_some_iff {c : Option Char} {d : Char} (hd : ¬d.isAlpha) :
    c.map Char.toUpper = some d ↔ c = some d := by
  cases c with
  | none => simp
  | some c => rw [Option.map_some, Option.some_inj, Option.some_inj, toUpper_eq_iff hd]

/-! ### Trimming and words -/

@[simp] theorem asciiUpper_eq_nil_iff {s : Text} : asciiUpper s = [] ↔ s = [] := List.map_eq_nil_iff

theorem asciiUpper_asciiUpper (s : Text) : asciiUpper (asciiUpper s) = asciiUpper s := by
  simp only [asciiUpper, List.map_map]
  exact List.map_congr_left fun c _ => toUpper_toUpper c

theorem take_asciiUpper (n : Nat) (s : Text) : (asciiUpper s).take n = asciiUpper (s.take n) :=
  List.map_take.symm

section Classes

variable {p : Char → Bool} (hp : ∀ c, p c.toUpper = p c)

include hp

theorem dropWhile_asciiUpper (s : Text) :
    (asciiUpper s).dropWhile p = asciiUpper (s.dropWhile p) := by
  have hcomp : p ∘ Char.toUpper = p := funext hp
  rw [asciiUpper, List.dropWhile_map, hcomp, asciiUpper]

theorem takeWhile_asciiUpper (s : Text) :
    (asciiUpper s).takeWhile p = asciiUpper (s.takeWhile p) := by
  have hcomp : p ∘ Char.toUpper = p := funext hp
  rw [asciiUpper, List.takeWhile_map, hcomp, asciiUpper]

end Classes

theorem dropEndWhile_asciiUpper {p : Char → Bool} (hp : ∀ c, p c.toUpper = p c) (s : Text) :
    dropEndWhile p (asciiUpper s) = asciiUpper (dropEndWhile p s) := by
  have hreverse (t : Text) : (asciiUpper t).reverse = asciiUpper t.reverse := List.map_reverse.symm
  simp only [dropEndWhile, hreverse, dropWhile_asciiUpper hp]

theorem trimStart_asciiUpper (s : Text) : trimStart (asciiUpper s) = asciiUpper (trimStart s) :=
  dropWhile_asciiUpper isBlank_toUpper s

theorem trimEnd_asciiUpper (s : Text) : trimEnd (asciiUpper s) = asciiUpper (trimEnd s) :=
  dropEndWhile_asciiUpper isBlank_toUpper s

theorem trim_asciiUpper (s : Text) : trim (asciiUpper s) = asciiUpper (trim s) := by
  rw [trim, trimStart_asciiUpper, trimEnd_asciiUpper, trim]

/-- By induction on the list: an item goes to the first part, or a part ends with it. -/
theorem splitOnP_map {α : Type} {p : α → Bool} {f : α → α} (h : ∀ a, p (f a) = p a) (l : List α) :
    (l.map f).splitOnP p = (l.splitOnP p).map (List.map f) := by
  induction l with
  | nil => rfl
  | cons a l ih =>
      rw [List.map_cons, List.splitOnP_cons_eq_if_modifyHead, List.splitOnP_cons_eq_if_modifyHead,
        h, ih]
      split
      · rfl
      · cases l.splitOnP p <;> rfl

theorem splitOn_map {α : Type} [DecidableEq α] {x : α} {f : α → α} (h : ∀ a, f a = x ↔ a = x)
    (l : List α) : (l.map f).splitOn x = (l.splitOn x).map (List.map f) := by
  rw [List.splitOn_eq_splitOnP, List.splitOn_eq_splitOnP]
  refine splitOnP_map (fun a => ?_) l
  rw [Bool.eq_iff_iff, beq_iff_eq, beq_iff_eq, h]

theorem words_asciiUpper (s : Text) : words (asciiUpper s) = (words s).map asciiUpper := by
  rw [words, asciiUpper, splitOnP_map isBlank_toUpper, List.filter_map, words]
  refine congrArg (List.map asciiUpper) (List.filter_congr fun w _ => ?_)
  simp

/-! ### Lower case -/

theorem asciiLower_asciiUpper (s : Text) : asciiLower (asciiUpper s) = asciiLower s := by
  have hlower (c : Char) : c.toUpper.toLower = c.toLower := apply_toUpper (by decide) c
  simp only [asciiLower, asciiUpper, List.map_map]
  exact List.map_congr_left fun c _ => hlower c

theorem toLower_cases (c : Char) : (∃ n < 26, c = (lowerLetter n).toUpper) ∨ c.toLower = c := by
  by_cases hc : 'A'.val ≤ c.val ∧ c.val ≤ 'Z'.val
  · have hletters : ∀ n < 26, (lowerLetter n).toUpper = Char.ofNat (65 + n) := by decide
    have hlow : 65 ≤ c.toNat := UInt32.le_iff_toNat_le.mp hc.1
    have hhigh : c.toNat ≤ 90 := UInt32.le_iff_toNat_le.mp hc.2
    refine .inl ⟨c.toNat - 65, by omega, ?_⟩
    rw [hletters _ (by omega), Nat.add_sub_cancel' hlow, Char.ofNat_toNat]
  · exact .inr (dif_neg hc)

theorem asciiUpper_asciiLower (s : Text) : asciiUpper (asciiLower s) = asciiUpper s := by
  have hletters : ∀ n < 26, (lowerLetter n).toUpper.toLower.toUpper =
      (lowerLetter n).toUpper.toUpper := by decide
  simp only [asciiLower, asciiUpper, List.map_map]
  refine List.map_congr_left fun c _ => ?_
  rw [Function.comp_apply]
  rcases toLower_cases c with ⟨n, hn, rfl⟩ | hc
  · exact hletters n hn
  · rw [hc]

/-- Words that are the same in lower case are the same in upper case. -/
theorem sameWord_iff {s t : Text} : sameWord s t ↔ asciiUpper s = asciiUpper t := by
  rw [sameWord, beq_iff_eq]
  constructor <;> intro h
  · rw [← asciiUpper_asciiLower s, h, asciiUpper_asciiLower]
  · rw [← asciiLower_asciiUpper s, h, asciiLower_asciiUpper]

theorem sameWord_asciiUpper_left (s t : Text) : sameWord (asciiUpper s) t = sameWord s t := by
  rw [sameWord, asciiLower_asciiUpper, sameWord]

theorem sameWord_asciiUpper_right (s t : Text) : sameWord s (asciiUpper t) = sameWord s t := by
  rw [sameWord, asciiLower_asciiUpper, sameWord]

theorem meetsCased_asciiUpper (s : Text) : meetsCased (asciiUpper s) = meetsCased s := by
  have hignorable (c : Char) : isCaseIgnorable c.toUpper = isCaseIgnorable c :=
    apply_toUpper (by decide +kernel) c
  have hcased (c : Char) : isCased c.toUpper = isCased c := apply_toUpper (by decide) c
  rw [meetsCased, dropWhile_asciiUpper hignorable, meetsCased]
  cases s.dropWhile isCaseIgnorable with
  | nil => rfl
  | cons c s => exact hcased c

/-- By induction on the text: a letter has the lower case of its upper case, and it stays cased for
the sigmas around it. -/
theorem lowerAfter_asciiUpper (before s : Text) :
    lowerAfter (asciiUpper before) (asciiUpper s) = lowerAfter before s := by
  induction s generalizing before with
  | nil => rfl
  | cons c s ih =>
      have hsigma : c.toUpper = 'Σ' ↔ c = 'Σ' := toUpper_eq_iff (by decide)
      have hlower : lowerChar c.toUpper = lowerChar c := apply_toUpper (by decide) c
      have hmore : lowerAfter (c.toUpper :: asciiUpper before) (asciiUpper s) =
          lowerAfter (c :: before) s := ih (c :: before)
      change lowerAfter (asciiUpper before) (c.toUpper :: asciiUpper s) = _
      simp only [lowerAfter, hsigma, hlower, meetsCased_asciiUpper, hmore]

/-- Lower-casing does not see which letters from a to z were in upper case. -/
theorem lower_asciiUpper (s : Text) : lower (asciiUpper s) = lower s := lowerAfter_asciiUpper [] s

/-! ### Texts without letters -/

/-- Whether a text has no letter from A to Z in either case. -/
def IsCaseless (s : Text) : Prop := ∀ c ∈ s, ¬c.isAlpha

instance (s : Text) : Decidable (IsCaseless s) := List.decidableBAll _ s

section Caseless

variable {s t : Text} (ht : IsCaseless t)

include ht

theorem asciiUpper_of_isCaseless : asciiUpper t = t := by
  refine (List.map_congr_left fun c hc => ?_).trans (List.map_id t)
  exact (toUpper_eq_iff (ht c hc)).mpr rfl

theorem asciiUpper_eq_iff : asciiUpper s = t ↔ s = t := by
  refine ⟨fun h => ?_, fun h => by rw [h, asciiUpper_of_isCaseless ht]⟩
  subst h
  induction s with
  | nil => rfl
  | cons c s ih =>
      obtain ⟨hc, hs⟩ := List.forall_mem_cons.mp ht
      exact congrArg₂ List.cons ((toUpper_eq_iff hc).mp rfl) (ih hs)

theorem prefix_asciiUpper_iff : t <+: asciiUpper s ↔ t <+: s := by
  rw [asciiUpper, List.prefix_map_iff]
  constructor
  · rintro ⟨u, hu, h⟩
    exact (asciiUpper_eq_iff ht).mp h.symm ▸ hu
  · exact fun h => ⟨t, h, (asciiUpper_of_isCaseless ht).symm⟩

theorem suffix_asciiUpper_iff : t <:+ asciiUpper s ↔ t <:+ s := by
  rw [asciiUpper, List.suffix_map_iff]
  constructor
  · rintro ⟨u, hu, h⟩
    exact (asciiUpper_eq_iff ht).mp h.symm ▸ hu
  · exact fun h => ⟨t, h, (asciiUpper_of_isCaseless ht).symm⟩

theorem dropTail_asciiUpper (s : Text) : dropTail t (asciiUpper s) = asciiUpper (dropTail t s) := by
  have hsuffix : t.isSuffixOf (asciiUpper s) = t.isSuffixOf s := by
    rw [Bool.eq_iff_iff, List.isSuffixOf_iff_suffix, List.isSuffixOf_iff_suffix,
      suffix_asciiUpper_iff ht]
  rw [dropTail, hsuffix, length_asciiUpper, take_asciiUpper, dropTail]
  exact (apply_ite asciiUpper _ _ _).symm

end Caseless

/-- A list of texts without letters holds a text in every case or in none. -/
theorem contains_asciiUpper {ts : List Text} (hts : ∀ t ∈ ts, IsCaseless t) (s : Text) :
    ts.contains (asciiUpper s) = ts.contains s := by
  have hmem : asciiUpper s ∈ ts ↔ s ∈ ts :=
    ⟨fun h => (asciiUpper_eq_iff (hts _ h)).mp rfl ▸ h, fun h =>
      (asciiUpper_of_isCaseless (hts s h)).symm ▸ h⟩
  rw [Bool.eq_iff_iff, List.contains_iff_mem, List.contains_iff_mem, hmem]

/-! ### The upper case of Unicode -/

def IsAscii (s : Text) : Prop := ∀ c ∈ s, c.toNat < 0x80

instance (s : Text) : Decidable (IsAscii s) := List.decidableBAll _ s

/-- Whether no character of a text has an upper case that ASCII does not know. -/
def HasAsciiCase (s : Text) : Prop := ∀ c ∈ s, 0x7F < c.toNat → upperChar c = [c]

instance (s : Text) : Decidable (HasAsciiCase s) := List.decidableBAll _ s

theorem upperChar_eq_iff (c : Char) :
    upperChar c = [c.toUpper] ↔ (0x7F < c.toNat → upperChar c = [c]) := by
  by_cases hc : 0x7F < c.toNat
  · rw [toUpper_of_not_ascii hc]
    exact ⟨fun h _ => h, fun h => h hc⟩
  · exact iff_of_true (upperChar_of_ascii (by omega)) fun h => absurd h hc

theorem upperChar_ne_nil (c : Char) : upperChar c ≠ [] := by
  have hmap (rules : List CaseRule) : mapCase upperSequences rules c ≠ [] := by
    unfold mapCase
    split
    next codes hcodes =>
      have hne : ∀ entry ∈ upperSequences, entry.2 ≠ [] := by decide
      obtain ⟨before, after, hmem, -⟩ := List.lookup_eq_some_iff.mp hcodes
      exact mt List.map_eq_nil_iff.mp (hne (c.toNat, codes) (by simp [hmem]))
    next => split <;> exact List.cons_ne_nil _ _
  unfold upperChar
  split
  · exact List.cons_ne_nil _ _
  · split <;> exact hmap _

theorem length_le_length_upper (s : Text) : s.length ≤ (upper s).length := by
  induction s with
  | nil => exact Nat.le_refl 0
  | cons c s ih =>
      have hc := List.length_pos_of_ne_nil (upperChar_ne_nil c)
      rw [upper] at ih ⊢
      rw [List.flatMap_cons, List.length_append, List.length_cons]
      omega

theorem upper_eq_asciiUpper_iff (s : Text) : upper s = asciiUpper s ↔ HasAsciiCase s := by
  induction s with
  | nil => simp [upper, asciiUpper, HasAsciiCase]
  | cons c s ih =>
      rw [HasAsciiCase, List.forall_mem_cons, ← upperChar_eq_iff, ← HasAsciiCase, ← ih]
      change upperChar c ++ upper s = c.toUpper :: asciiUpper s ↔ _
      refine ⟨fun h => ?_, fun h => by rw [h.1, h.2, List.singleton_append]⟩
      -- No character is lost in either case, so the first one cannot take up more room.
      have hlength := congrArg List.length h
      have hle := length_le_length_upper s
      have hpos := List.length_pos_of_ne_nil (upperChar_ne_nil c)
      rw [List.length_append, List.length_cons, length_asciiUpper] at hlength
      rw [← List.singleton_append] at h
      exact List.append_inj h (by rw [List.length_singleton]; omega)

end SqlScript.Text
