import SqlScript.Query.Columns
import Mathlib.Data.List.Nodup
import Mathlib.Data.List.Induction

/-!
Which names are changed to make them distinct, and when they really are. A name that is taken gets
its position behind it and is not looked up again, so it can meet a name that was given in that
form. Two names that got their positions never meet: the digits of a position hold no hyphen and can
be told from the name. Names that are distinct from the start stay as they are.
-/

namespace SqlScript.Query

open Text

def numbered (name : Text) (position : Nat) : Text := name ++ '-' :: ofNat position

/-! ### Names with positions -/

theorem ofNat_injective : Function.Injective ofNat := by
  intro m n h
  have hread := congrArg (fun digits => Nat.ofDigitChars 10 digits 0) h
  simpa [ofNat, Nat.ofDigitChars_toDigits] using hread

theorem ne_hyphen_of_mem_ofNat {n : Nat} {c : Char} (h : c ∈ ofNat n) : c ≠ '-' := by
  have hdigit : c.isDigit = true := Nat.isDigit_of_mem_toDigits (by decide) (by decide) h
  rintro rfl
  exact absurd hdigit (by decide)

/-- The digits are what stands behind the last hyphen. -/
theorem takeWhile_reverse_numbered (name : Text) (n : Nat) :
    (numbered name n).reverse.takeWhile (· != '-') = (ofNat n).reverse := by
  have hdigits : ∀ c ∈ (ofNat n).reverse, (c != '-') = true := by
    intro c hc
    exact bne_iff_ne.mpr (ne_hyphen_of_mem_ofNat (List.mem_reverse.mp hc))
  rw [numbered, List.reverse_append, List.reverse_cons, List.append_assoc,
    List.takeWhile_append_of_pos hdigits]
  simp

theorem numbered_inj {name other : Text} {m n : Nat} :
    numbered name m = numbered other n ↔ name = other ∧ m = n := by
  constructor
  · intro h
    have hdigits := congrArg (fun s => s.reverse.takeWhile (· != '-')) h
    simp only [takeWhile_reverse_numbered] at hdigits
    obtain rfl : m = n := ofNat_injective (List.reverse_injective hdigits)
    exact ⟨List.append_cancel_right h, rfl⟩
  · rintro ⟨rfl, rfl⟩
    rfl

theorem ne_numbered (name : Text) (position : Nat) : name ≠ numbered name position := by
  intro h
  have hlength := congrArg List.length h
  rw [numbered, List.length_append, List.length_cons] at hlength
  omega

/-! ### One more name -/

theorem distinctFrom_append (position : Nat) (taken names others : List Text) :
    distinctFrom position taken (names ++ others) =
      distinctFrom position taken names ++
        distinctFrom (position + names.length)
          ((distinctFrom position taken names).reverse ++ taken) others := by
  induction names generalizing position taken with
  | nil => rfl
  | cons name names ih =>
      rw [List.cons_append, distinctFrom, distinctFrom, ih, List.length_cons,
        Nat.add_right_comm position 1, Nat.add_assoc position]
      simp

/-- The last name is kept if it is free, and gets its position otherwise. -/
theorem distinctNames_concat (names : List Text) (name : Text) :
    distinctNames (names ++ [name]) = distinctNames names ++
      [if name ∈ distinctNames names then numbered name names.length else name] := by
  rw [distinctNames, distinctFrom_append, ← distinctNames]
  simp [distinctFrom, numbered]

theorem distinctNames_take (names : List Text) (n : Nat) :
    distinctNames (names.take n) = (distinctNames names).take n := by
  induction names using List.reverseRecOn with
  | nil => rw [List.take_nil, distinctNames, distinctFrom, List.take_nil]
  | append_singleton names last ih =>
      by_cases hle : n ≤ names.length
      · rw [List.take_append_of_le_length hle, ih, distinctNames_concat,
          List.take_append_of_le_length (by rwa [length_distinctNames])]
      · have hall : (names ++ [last]).length ≤ n := by
          rw [List.length_append, List.length_singleton]
          omega
        rw [List.take_of_length_le hall, List.take_of_length_le (by rwa [length_distinctNames])]

/-- A name gets its position exactly if it is among the names in front of it. -/
theorem getElem?_distinctNames {names : List Text} {position : Nat} {name : Text}
    (h : names[position]? = some name) :
    (distinctNames names)[position]? =
      some (if name ∈ (distinctNames names).take position then numbered name position
        else name) := by
  have hupTo : names.take (position + 1) = names.take position ++ [name] := by
    rw [List.take_add_one, h, Option.toList_some]
  have hlength : (names.take position).length = position := by
    obtain ⟨hlt, -⟩ := List.getElem?_eq_some_iff.mp h
    rw [List.length_take, Nat.min_eq_left (Nat.le_of_lt hlt)]
  calc (distinctNames names)[position]?
      = (distinctNames (names.take (position + 1)))[position]? := by
        rw [distinctNames_take, List.getElem?_take_of_lt (Nat.lt_succ_self position)]
    _ = (distinctNames (names.take position) ++ [if name ∈ distinctNames (names.take position)
          then numbered name position else name])[position]? := by
        rw [hupTo, distinctNames_concat, hlength]
    _ = some (if name ∈ (distinctNames names).take position then numbered name position
          else name) := by
        have hlast : (distinctNames (names.take position)).length = position := by
          rw [length_distinctNames, hlength]
        rw [List.getElem?_append_right (Nat.le_of_eq hlast), hlast, Nat.sub_self,
          List.getElem?_cons_zero, distinctNames_take]

/-- A name with a later position is only there if it was given so. -/
theorem numbered_mem_distinctNames {names : List Text} {name : Text} {position : Nat}
    (h : names.length ≤ position) :
    numbered name position ∈ distinctNames names ↔ numbered name position ∈ names := by
  induction names using List.reverseRecOn with
  | nil => rfl
  | append_singleton names last ih =>
      rw [List.length_append, List.length_singleton] at h
      have hbefore := ih (by omega)
      rw [distinctNames_concat, List.mem_append, List.mem_append, List.mem_singleton,
        List.mem_singleton, hbefore]
      by_cases htaken : last ∈ distinctNames names
      · rw [if_pos htaken]
        constructor
        · rintro (hmem | hlast)
          · exact .inl hmem
          · obtain ⟨-, hposition⟩ := numbered_inj.mp hlast
            omega
        · rintro (hmem | rfl)
          · exact .inl hmem
          · exact .inl (hbefore.mp htaken)
      · rw [if_neg htaken]

/-- Whether the name at a position is taken there and was also given in front of it with its
position behind it. -/
def MeetsGiven (names : List Text) (position : Nat) : Prop :=
  ∃ name, names[position]? = some name ∧ name ∈ (distinctNames names).take position ∧
    numbered name position ∈ names.take position

theorem meetsGiven_concat_of_lt {names : List Text} {position : Nat} (name : Text)
    (h : position < names.length) :
    MeetsGiven (names ++ [name]) position ↔ MeetsGiven names position := by
  have hlength : position ≤ (distinctNames names).length := by
    rw [length_distinctNames]
    exact Nat.le_of_lt h
  rw [MeetsGiven, distinctNames_concat, List.getElem?_append_left h,
    List.take_append_of_le_length (Nat.le_of_lt h), List.take_append_of_le_length hlength,
    MeetsGiven]

theorem meetsGiven_concat_length (names : List Text) (name : Text) :
    MeetsGiven (names ++ [name]) names.length ↔
      name ∈ distinctNames names ∧ numbered name names.length ∈ names := by
  have htaken : (distinctNames (names ++ [name])).take names.length = distinctNames names := by
    rw [distinctNames_concat, ← length_distinctNames names, List.take_left]
  rw [MeetsGiven, htaken, List.getElem?_concat_length, List.take_left]
  simp

theorem not_meetsGiven_of_le {names : List Text} {position : Nat} (h : names.length ≤ position) :
    ¬MeetsGiven names position := by
  rintro ⟨name, hname, -⟩
  rw [List.getElem?_eq_none h] at hname
  exact absurd hname (by simp)

/-- The names are pairwise distinct exactly if no name that is taken when its turn comes was also
given in front of it with its position behind it. -/
theorem nodup_distinctNames_iff (names : List Text) :
    (distinctNames names).Nodup ↔ ∀ position, ¬MeetsGiven names position := by
  induction names using List.reverseRecOn with
  | nil => exact iff_of_true List.nodup_nil fun _ => not_meetsGiven_of_le (Nat.zero_le _)
  | append_singleton names name ih =>
      -- The names before the last are distinct by induction, so only the last one can repeat.
      have hlast : (if name ∈ distinctNames names then numbered name names.length else name) ∉
          distinctNames names ↔ ¬MeetsGiven (names ++ [name]) names.length := by
        rw [meetsGiven_concat_length, ← numbered_mem_distinctNames (Nat.le_refl _)]
        by_cases htaken : name ∈ distinctNames names <;> simp [htaken]
      rw [distinctNames_concat, ← List.concat_eq_append, List.nodup_concat, ih, hlast]
      constructor
      · rintro ⟨hname, hbefore⟩ position
        rcases Nat.lt_trichotomy position names.length with hlt | rfl | hgt
        · rw [meetsGiven_concat_of_lt name hlt]
          exact hbefore position
        · exact hname
        · exact not_meetsGiven_of_le (by simpa using Nat.succ_le_of_lt hgt)
      · intro h
        refine ⟨h names.length, fun position => ?_⟩
        by_cases hlt : position < names.length
        · rw [← meetsGiven_concat_of_lt name hlt]
          exact h position
        · exact not_meetsGiven_of_le (by omega)

/-- No name is left out, and one gets its position exactly if it is among the names in front of it.
So the names stay as they are exactly if none is repeated. -/
theorem distinctNames_numbers_taken (names : List Text) :
    (distinctNames names).length = names.length ∧
      (∀ position name, names[position]? = some name →
        ((distinctNames names)[position]? = some name ∨
          (distinctNames names)[position]? = some (numbered name position)) ∧
        ((distinctNames names)[position]? = some (numbered name position) ↔
          name ∈ (distinctNames names).take position)) ∧
      (distinctNames names = names ↔ names.Nodup) := by
  refine ⟨length_distinctNames names, fun position name hname => ?_, ?_⟩
  · rw [getElem?_distinctNames hname]
    by_cases htaken : name ∈ (distinctNames names).take position
    · rw [if_pos htaken]
      exact ⟨.inr rfl, iff_of_true rfl htaken⟩
    · rw [if_neg htaken]
      exact ⟨.inl rfl, iff_of_false (mt Option.some.inj (ne_numbered name position)) htaken⟩
  · induction names using List.reverseRecOn with
    | nil => exact iff_of_true rfl List.nodup_nil
    | append_singleton names name ih =>
        rw [distinctNames_concat, List.append_singleton_inj, ih, ← List.concat_eq_append,
          List.nodup_concat, and_comm]
        refine and_congr_left fun hnodup => ?_
        rw [ih.mpr hnodup]
        refine ⟨fun hkept htaken => ?_, fun hfree => if_neg hfree⟩
        rw [if_pos htaken] at hkept
        exact ne_numbered name names.length hkept.symm

/-- The last name is given once, but a name in front of it got that form from its position. -/
theorem distinctNames_numbers_taken_generated :
    let names := ["a".toList, "a".toList, "b".toList, "a-1".toList]
    names[3]? = some "a-1".toList ∧
      distinctNames names = ["a".toList, "a-1".toList, "b".toList, "a-1-3".toList] ∧
      ((distinctNames names)[3]? = some (numbered "a-1".toList 3) ↔
        "a-1".toList ∈ (distinctNames names).take 3) ∧
      ¬names.Nodup := by
  intro names
  have hname : names[3]? = some "a-1".toList := rfl
  obtain ⟨-, hnumbered, hkept⟩ := distinctNames_numbers_taken names
  refine ⟨hname, by decide +kernel, (hnumbered 3 _ hname).2, fun hnodup => ?_⟩
  exact absurd (hkept.mpr hnodup) (by decide +kernel)

/-- A repeated name meets the one that was given with its position. -/
theorem distinctNames_meets_given :
    distinctNames ["a".toList, "a-2".toList, "a".toList] =
        ["a".toList, "a-2".toList, "a-2".toList] ∧
      ¬(distinctNames ["a".toList, "a-2".toList, "a".toList]).Nodup := by
  decide +kernel

end SqlScript.Query
