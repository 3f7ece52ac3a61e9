import AgentSync.Text.Hex
import AgentSync.Text.Split

namespace AgentSync.Text

/-- A set of characters, by the first and the last code point of each range. -/
abbrev Ranges := List (Nat × Nat)

/-- The words of a line of a table. -/
def words (line : String) : List (List Char) := splitOn ' ' line.toList

/-- A code point as a table writes it. -/
def codePoint (word : List Char) : Nat := (hexNumber? word).getD 0

namespace Ranges

/-- A range as a table writes it: its first and last code point in hexadecimal with a hyphen between
them, or its only one. -/
def ofWord (word : List Char) : Nat × Nat :=
  match splitOn '-' word with
  | [first, last] => (codePoint first, codePoint last)
  | _ => (codePoint word, codePoint word)

def ofLine (line : String) : Ranges := (words line).map ofWord

def ofLines (lines : List String) : Ranges := lines.flatMap ofLine

def contains (ranges : Ranges) (c : Char) : Bool :=
  ranges.any fun (first, last) => first ≤ c.toNat && c.toNat ≤ last

end Ranges

/-- The value of the first row of a table that has a character. -/
def lookup? {α : Type} (rows : List (α × Ranges)) (c : Char) : Option α :=
  (rows.find? fun (_, ranges) => ranges.contains c).map (·.1)

end AgentSync.Text
