import SqlScript.Text.Basic

/-!
Sets of characters given by the ranges of their code points, as the Unicode character database
lists them.
-/

namespace SqlScript.Text

/-- Ranges of code points, each with both its ends. -/
abbrev CodeTable := List (Nat × Nat)

def CodeTable.contains (table : CodeTable) (c : Char) : Bool :=
  table.any fun (first, last) => first ≤ c.toNat && c.toNat ≤ last

theorem CodeTable.contains_iff {table : CodeTable} {c : Char} :
    table.contains c = true ↔ ∃ range ∈ table, range.1 ≤ c.toNat ∧ c.toNat ≤ range.2 := by
  simp [CodeTable.contains]

end SqlScript.Text
