import SqlScript.Text.Blank
import SqlScript.Text.Alphanumeric
import SqlScript.Text.Case

/-!
Phrases are the few upper-case words that tell one kind of statement from another: the phrase a
keyword is registered under, and the phrase a line begins with.
-/

namespace SqlScript

open Text

/-- Upper-case words. -/
abbrev Phrase := List Text

namespace Phrase

/-- The number of words that are compared. -/
def maxWords : Nat := 5

/-- The phrase that a text spells out, in upper case and cut to the words that are compared. -/
def ofText (s : Text) : Phrase := ((words s).take maxWords).map upper

/-- Characters around a call escape that do not belong to its first word. -/
def isEscapeMarker (c : Char) : Bool := c = '{' || c = '?' || c = '}' || c = '='

/-- First characters of a client command word, as in `\connect` and `@file`. -/
def isCommandMarker (c : Char) : Bool := c = '\\' || c = '@' || c = '!'

def isWordChar (c : Char) : Bool := isAlphanumeric c || c = '_'

/-- The part of a word that can be a keyword, a command marker in front included. -/
def keywordPart : Text → Text
  | [] => []
  | c :: s => if isWordChar c || isCommandMarker c then c :: s.takeWhile isWordChar else []

/-- The words up to the first that is not a keyword to its end; of that one the keyword part. -/
def leadingKeywords : List Text → Phrase
  | [] => []
  | w :: ws =>
    if keywordPart w = [] then []
    else if keywordPart w = w then asciiUpper w :: leadingKeywords ws
    else [asciiUpper (keywordPart w)]

/-- The phrase that a line begins with, blanks and escape markers in front of it dropped. -/
def leading (line : Text) : Phrase :=
  leadingKeywords ((words (line.dropWhile fun c => isBlank c || isEscapeMarker c)).take maxWords)

theorem length_leadingKeywords_le (ws : List Text) : (leadingKeywords ws).length ≤ ws.length := by
  induction ws with
  | nil => simp [leadingKeywords]
  | cons w ws ih =>
    simp only [leadingKeywords]
    split
    · simp
    · split <;> simp [ih]

theorem length_leading_le (line : Text) : (leading line).length ≤ maxWords :=
  Nat.le_trans (length_leadingKeywords_le _) (List.length_take_le _ _)

end Phrase

end SqlScript
