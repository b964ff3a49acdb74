/-!
# Printers

A printer makes of marked-up texts what goes to the screen. Tags in brackets style a text,
and a printer complains of a tag that closes what is not open. What was printed before a
complaint stays printed.
-/
namespace ConceptInventory

structure Column where
  header : String
  centred : Bool
deriving DecidableEq, Repr

/-- A title, columns with headers, and rows of marked-up cells. -/
structure Grid where
  title : String
  columns : List Column
  rows : List (List String)
  /-- Lines between the rows. -/
  ruled : Bool
deriving DecidableEq, Repr

structure Printer where
  text : String → Except String String
  grid : Grid → Except String String
  /-- Marks up a text so that no part of it is a tag. -/
  escape : String → String

/-- What was printed, and the complaint that ended the printing, if one did. -/
structure Printout where
  text : String
  complaint : Option String
deriving DecidableEq, Repr

namespace Printout

def ofResult : Except String String → Printout
  | .ok text => ⟨text, none⟩
  | .error complaint => ⟨"", some complaint⟩

/-- Prints on, unless a complaint has ended the printing. -/
def andThen (p next : Printout) : Printout :=
  match p.complaint with
  | none => ⟨p.text ++ next.text, next.complaint⟩
  | some _ => p

end Printout

namespace Printer

/-- Prints texts in turn. -/
def printAll (p : Printer) (texts : List String) : Printout :=
  texts.foldr (fun t rest => (Printout.ofResult (p.text t)).andThen rest) ⟨"", none⟩

/-- What is relied on in a printer that reads tags. -/
structure ReadsMarkup (p : Printer) : Prop where
  /-- A text without opening brackets is printed. -/
  plain : ∀ s : String, '[' ∉ s.toList → ∃ t, p.text s = .ok t
  /-- So is one with a style, given by a word, around it. -/
  styled : ∀ word s : String, word ≠ "" → (∀ c ∈ word.toList, 'a' ≤ c ∧ c ≤ 'z') →
    '[' ∉ s.toList → ∃ t, p.text ("[" ++ word ++ "]" ++ s ++ "[/]") = .ok t
  /-- A text is refused if its first bracket opens a closing tag. -/
  unopened : ∀ before name after : String, '[' ∉ before.toList → '\\' ∉ before.toList →
    '[' ∉ name.toList → ']' ∉ name.toList →
    ∃ complaint, p.text (before ++ "[/" ++ name ++ "]" ++ after) = .error complaint

end Printer

end ConceptInventory
