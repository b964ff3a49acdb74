import ConceptInventory.Extractor

/-!
# The vocabulary of a language

What an extractor can record, whatever it reads. Of most kinds the name alone is
recorded, in lower case as the value; a directive is recorded with its text. A kind
that only the neighbours decide is not recorded but what it is resolved to is, and
that is filed as a kind of its own; the single angle alone is resolved to itself.
-/
namespace ConceptInventory

/-- Where the paths start. -/
def Category.roots : List String :=
  [statement, declaration, expression, preprocessor, compilationUnit]

/-- A path of at least two names, from one of the roots to a token. -/
structure CategoryPath.LeadsTo (p : CategoryPath) (token : String) : Prop where
  root : p.root ∈ Category.roots
  innermost : p.innermost = token
  two_le : 2 ≤ p.length

/-- Some token of the kind has a text. -/
def Grammar.CarriesText {κ : Type} (g : Grammar κ) (k : κ) : Prop :=
  k = g.unrecognized ∨ ∃ r ∈ g.rules, r.kind = some k ∧ r.keepsText = true

namespace CFamily

def directiveLiteral (d : String) : String := "Preprocessor(\"#" ++ d ++ "\")"

/-- The tokens and values that are recorded. -/
inductive Records : String → String → Prop
  | filed {k : Kind} {outer : List String} (hk : k ≠ .directive)
      (h : treatment k = .filed outer) : Records k.name k.name.toLower
  | angle {k : Kind} (h : k = .greater ∨ k = .less) : Records k.name k.name.toLower
  | directive {d : String} (h : d ∈ directives) : Records (directiveLiteral d) ("#" ++ d)

/-- Ambiguous kinds, kinds with a text and punctuation. -/
def unrecorded : List Kind := [
  .asterisk, .ampersand, .leftOperator, .rightOperator, .increment, .decrement, .openParen,
  .openBracket, .identifier, .number, .stringLiteral, .dot, .arrow, .semicolon, .comma, .colon,
  .openBrace, .closeBrace, .closeParen, .closeBracket, .lineBreak, .unrecognized]

/-- Tokens of the kind are recorded by its name. -/
def isNamed (k : Kind) : Bool :=
  match treatment k with
  | .filed _ => k != .directive
  | .byContext a => a == .angle
  | .skipped => false

def vocabulary : List String :=
  (Kind.all.filter isNamed).map Kind.name ++ directives.map directiveLiteral

end CFamily

namespace Python

/-- The tokens and values that are recorded. -/
inductive Records : String → String → Prop
  | filed {k : Kind} {outer : List String} (h : treatment k = .filed outer) :
      Records k.name k.name.toLower

/-- Tokens of the kind are recorded by its name. -/
def isNamed (k : Kind) : Bool :=
  match treatment k with
  | .filed _ => true
  | .skipped => false

def vocabulary : List String := (Kind.all.filter isNamed).map Kind.name

end Python

namespace Language

def Records (l : Language) : String → String → Prop :=
  match l.family with
  | .cFamily => CFamily.Records
  | .python => Python.Records

/-- The literal of some token that is never recorded, with whatever text. -/
def PassesOver (l : Language) (token : String) : Prop :=
  match l.family with
  | .cFamily => ∃ t : Token CFamily.Kind, t.kind ∈ CFamily.unrecorded ∧ t.literal = token
  | .python => ∃ t : Token Python.Kind, Python.grammar.CarriesText t.kind ∧ t.literal = token

/-- The literals of all that can be recorded. -/
def vocabulary (l : Language) : List String :=
  match l.family with
  | .cFamily => CFamily.vocabulary
  | .python => Python.vocabulary

/-- What is recorded is on the list, is none of what is passed over and is filed well. -/
structure Admits (l : Language) (s : Sighting) : Prop where
  records : l.Records s.token s.value
  listed : s.token ∈ l.vocabulary
  notPassedOver : ¬l.PassesOver s.token
  leadsTo : s.path.LeadsTo s.token

end Language

end ConceptInventory
