import ConceptInventory.Lexis.Window
import ConceptInventory.Taxonomy.Path

/-!
# Treatments

A taxonomy says of every kind how its tokens are treated: filed under fixed
categories, skipped, or decided by the neighbours. A classified token is
recorded with a path that ends in its own literal. The category names shared
by the taxonomies stand here.
-/
namespace ConceptInventory

namespace Category

def statement : String := "Statement"
def declaration : String := "Declaration"
def expression : String := "Expression"
def preprocessor : String := "Preprocessor"
def compilationUnit : String := "Compilation Unit"
def dataType : String := "Data Type"
def arithmeticDataType : String := "Arithmetic Data Type"
def declarator : String := "Declarator"
def primaryExpression : String := "Primary Expression"

def iteration : List String := [statement, "Iteration"]
def condition : List String := [statement, "Condition"]
def jump : List String := [statement, "Jump"]
def tryBlock : List String := [statement, "Try Block"]
def throwStatement : List String := [statement, "Throw Statement"]

def dataTypes : List String := [declaration, dataType]
def arithmeticTypes : List String := [declaration, dataType, arithmeticDataType]
def declarators : List String := [declaration, declarator]

def arithmetic : List String := [expression, "Arithmetic"]
def assignment : List String := [expression, "Assignment"]
def bitwise : List String := [expression, "Bitwise"]
def logical : List String := [expression, "Logical"]
def comparison : List String := [expression, "Comparison"]
def memberAccess : List String := [expression, "Member Access"]

end Category

/-- The token to record, its ambiguity resolved, and where it is filed. -/
structure Classification (κ : Type) where
  token : Token κ
  path : CategoryPath
deriving DecidableEq, Repr

/-- Files a token under categories given outermost first. -/
def Classification.file {κ : Type} [TokenKind κ] (t : Token κ) (outer : List String) :
    Classification κ := ⟨t, .build t.literal outer⟩

/-- How a kind is treated, with the ambiguities of its grammar as the cases
that only the neighbours decide. -/
inductive Treatment (α : Type)
  | filed (outer : List String)
  | skipped
  | byContext (a : α)
deriving DecidableEq, Repr

namespace TokenKind

variable {κ : Type} [TokenKind κ]

/-- The kinds a table without treatment for some of them leaves open. -/
def uncovered (covered : κ → Bool) : List κ := all.filter fun k => !covered k

/-- Said of a table that leaves kinds open, nothing of one that leaves none. -/
def coverageMessage? (covered : κ → Bool) : Option String :=
  match uncovered covered with
  | [] => none
  | ks => some ("No taxonomy rule for " ++ setName κ ++ ": " ++
      ", ".intercalate (ks.map upperName))

end TokenKind

end ConceptInventory
