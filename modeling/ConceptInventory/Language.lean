import ConceptInventory.Text.Blank
import ConceptInventory.Text.Message

/-!
# Programming languages

The languages a video can be resolved to. Three of them share one grammar. A
name is looked up whatever its case and the blanks around it; letters beyond
ASCII have no part in any of the names, so only ASCII case counts.
-/
namespace ConceptInventory

inductive Language
  | c | cpp | java | python
deriving DecidableEq, Repr

/-- The grammars. -/
inductive Family
  | cFamily | python
deriving DecidableEq, Repr

namespace Language

def all : List Language := [.c, .cpp, .java, .python]

def name : Language → String
  | .c => "C"
  | .cpp => "Cpp"
  | .java => "Java"
  | .python => "Python"

/-- The lower-case name written into results. -/
def exportName (l : Language) : String := l.name.toLower

def family : Language → Family
  | .c | .cpp | .java => .cFamily
  | .python => .python

def ofName? (s : String) : Option Language :=
  all.find? fun l => l.exportName == (trimBlanks s).toLower

/-- Said of a name that is no language, given as it is shown. -/
def unknownMessageOf (shown : String) : String := "Unknown programming language: " ++ shown

def unknownMessage (s : String) : String := unknownMessageOf (Message.showText s)

end Language

namespace Family

def name : Family → String
  | .cFamily => "cj"
  | .python => "py"

/-- The first word of the description of an extractor for this family. -/
def extractorName : Family → String
  | .cFamily => "CJParser"
  | .python => "PyParser"

end Family

end ConceptInventory
