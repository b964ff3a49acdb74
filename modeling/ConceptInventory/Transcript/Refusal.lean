import ConceptInventory.Json.WrittenFields
import ConceptInventory.Transcript
import Mathlib.Data.List.Forall2

/-!
# Lines at fault

Which lists of lines are transcripts, and which line of another list is to
blame, said of the fields as they are written and of the lines as they stand. A
line that is not blank is at fault if it holds no entry, or if its entry lies
before that of the nearest line above that is not blank. Lines are counted from
one, blank ones with them.
-/
namespace ConceptInventory.Transcript

/-- Nothing is left of the line when it is trimmed. -/
def IsBlankLine (line : String) : Prop := trimBlanks line = ""

instance (line : String) : Decidable (IsBlankLine line) :=
  inferInstanceAs (Decidable (trimBlanks line = ""))

/-- The line is an object. The last of its offsets is that of the entry, a whole
number that is not negative, and the last of its texts is the text. -/
def IsEntry (line : String) (e : Entry) : Prop :=
  ∃ written, Json.IsObject line written
    ∧ Json.lastOf? written "t" = some (.int e.offset)
    ∧ (Json.lastOf? written "text").bind Json.text? = some e.text

/-- The lines that are not blank are the entries, one by one and in order. -/
structure IsTranscript (lines : List String) (es : List Entry) : Prop where
  entries : List.Forall₂ IsEntry (lines.filter fun line => ¬IsBlankLine line) es
  inOrder : (es.map Entry.offset).Pairwise (· ≤ ·)

/-- The nearest line that is not blank is this entry. -/
def IsLastEntry (above : List String) (e : Entry) : Prop :=
  ∃ front line between, above = front ++ line :: between
    ∧ ¬IsBlankLine line ∧ IsEntry line e ∧ ∀ b ∈ between, IsBlankLine b

/-- The line is at fault under the lines above it, for a reason that is told. -/
inductive AtFault (above : List String) (line : String) : String → Prop
  | noEntry {fault : EntryFault} (hb : ¬IsBlankLine line) (hno : ∀ e, ¬IsEntry line e)
      (hfault : Entry.ofLine line = .error fault) :
      AtFault above line ("line " ++ toString (above.length + 1)
        ++ ": invalid transcript entry: " ++ fault.message)
  | disorder {e before : Entry} (hb : ¬IsBlankLine line) (he : IsEntry line e)
      (hbefore : IsLastEntry above before) (hlt : e.offset < before.offset) :
      AtFault above line ("line " ++ toString (above.length + 1) ++ ": offset "
        ++ toString e.offset ++ " is before " ++ toString before.offset)

end ConceptInventory.Transcript
