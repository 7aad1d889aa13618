import SqlScript.Kind
import SqlScript.Phrase

/-!
Keyword tables: which phrase makes which kind of statement. The longest phrase that a line begins
with decides, so `CREATE FUNCTION` overrides `CREATE`, and of two registrations of one phrase the
later one counts.
-/

namespace SqlScript

open Text

/-- Registered phrases with their kinds, the latest registration first. -/
structure Keywords where
  entries : List (Phrase × Kind)
deriving DecidableEq, Repr

namespace Keywords

def empty : Keywords := ⟨[]⟩

def get? (keywords : Keywords) (phrase : Phrase) : Option Kind := keywords.entries.lookup phrase

/-- Registers the phrase that a text spells out; a text without words is ignored. -/
def register (keywords : Keywords) (phrase : Text) (kind : Kind) : Keywords :=
  match Phrase.ofText phrase with
  | [] => keywords
  | words => ⟨(words, kind) :: keywords.entries⟩

/-- The kind of the longest beginning of a phrase that is registered. -/
def longest? (keywords : Keywords) (phrase : Phrase) : Option Kind :=
  (List.range phrase.length).reverse.findSome? fun n => keywords.get? (phrase.take (n + 1))

/-- The kind of a statement that starts with this line. A line that is no more than `BEGIN;`
starts a transaction, and a word with a command marker makes a command whatever it is. -/
def classify (keywords : Keywords) (line : Text) : Kind :=
  match Phrase.leading line with
  | [] => .unknown
  | first :: others =>
    if first = "BEGIN".toList ∧ others = [] ∧ (trimEnd line).getLast? = some ';' then .transaction
    else if first.head?.any Phrase.isCommandMarker then .command
    else (keywords.longest? (first :: others)).getD .unknown

@[simp] theorem get?_empty (phrase : Phrase) : empty.get? phrase = none := rfl

theorem get?_register (keywords : Keywords) (phrase : Text) (kind : Kind) (wanted : Phrase) :
    (keywords.register phrase kind).get? wanted =
      if wanted = Phrase.ofText phrase ∧ wanted ≠ [] then some kind else keywords.get? wanted := by
  unfold register get?
  split
  next h => rw [h]; by_cases hw : wanted = [] <;> simp [hw]
  next words hne =>
    by_cases hw : wanted = Phrase.ofText phrase
    · subst hw
      simp [show Phrase.ofText phrase ≠ [] from hne]
    · have : (wanted == Phrase.ofText phrase) = false := by simpa using hw
      simp [List.lookup_cons, this, hw]

end Keywords

end SqlScript
