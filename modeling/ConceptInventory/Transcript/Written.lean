import ConceptInventory.Json.Writer
import ConceptInventory.Transcript

/-!
# Writing transcripts

A transcript file is written line by line. A line holds one entry, as an object
on one line in either style of JSON, or nothing but spaces and tabs. Each line
has an end of its own choice; the last one may have none.
-/
namespace ConceptInventory

def Entry.toJson (e : Entry) : Json := .obj [("t", .int e.offset), ("text", .str e.text)]

namespace Transcript

inductive WrittenLine
  | entry (e : Entry) (asciiOnly : Bool)
  | blank (spaces : List Char)
deriving Repr

def WrittenLine.chars : WrittenLine → List Char
  | .entry e asciiOnly => Json.write ⟨none, asciiOnly⟩ 0 e.toJson
  | .blank spaces => spaces

/-- The entries a line contributes: one or none. -/
def WrittenLine.entries : WrittenLine → List Entry
  | .entry e _ => [e]
  | .blank _ => []

/-- A blank line holds spaces and tabs only. -/
def WrittenLine.IsProper : WrittenLine → Prop
  | .entry _ _ => True
  | .blank spaces => ∀ c ∈ spaces, c = ' ' ∨ c = '\t'

inductive LineEnd
  | feed | carriage | both
deriving DecidableEq, Repr

def LineEnd.chars : LineEnd → List Char
  | .feed => ['\n']
  | .carriage => ['\r']
  | .both => ['\r', '\n']

/-- The text of a file: ended lines, and a last line without an end. -/
def fileText (ended : List (WrittenLine × LineEnd)) (last : WrittenLine) : List Char :=
  ended.flatMap (fun l => l.1.chars ++ l.2.chars) ++ last.chars

/-- The entries of a file that is written so. -/
def fileEntries (ended : List (WrittenLine × LineEnd)) (last : WrittenLine) : List Entry :=
  ended.flatMap (fun l => l.1.entries) ++ last.entries

/-- Offsets do not go down and have at most 4300 digits. -/
def IsOrdered (es : List Entry) : Prop :=
  (es.map Entry.offset).Pairwise (· ≤ ·) ∧ ∀ e ∈ es, e.offset < Nat.pow 10 4300

end Transcript

end ConceptInventory
