import ConceptInventory.Json.Quoted
import ConceptInventory.Text.Message

/-!
# Tokens

A token has a kind and, for kinds that keep their source text, that text. Each
grammar has a kind type of its own; the class says how its kinds are listed
and named. The literal of a token is the key concepts are told apart by: the
name of the kind, with the text as a quoted string behind it if there is one.
-/
namespace ConceptInventory

class TokenKind (κ : Type) where
  /-- Every kind once, in the order the grammar declares them. -/
  all : List κ
  name : κ → String
  /-- What messages call the whole set of kinds. -/
  setName : String

structure Token (κ : Type) where
  kind : κ
  text : Option String
deriving DecidableEq, Repr

/-- A capital letter inside a name starts a new word. -/
def upperSnakeChars : List Char → List Char
  | [] => []
  | c :: rest => c.toUpper :: rest.flatMap fun d => if d.isUpper then ['_', d] else [d.toUpper]

namespace TokenKind

variable {κ : Type} [TokenKind κ]

/-- The name in capitals, its words joined by underscores. -/
def upperName (k : κ) : String := String.ofList (upperSnakeChars (name k).toList)

def find? (n : String) : Option κ := (all : List κ).find? fun k => name k == n

/-- Said of a name that no kind of the set has. -/
def unknownMessage (κ : Type) [TokenKind κ] (n : String) : String :=
  Message.showText n ++ " is not a valid " ++ setName κ

end TokenKind

namespace Token

variable {κ : Type}

def bare (k : κ) : Token κ := ⟨k, none⟩

variable [TokenKind κ]

def literal (t : Token κ) : String :=
  match t.text with
  | none => TokenKind.name t.kind
  | some s => TokenKind.name t.kind ++ "(" ++ Json.quote s ++ ")"

/-- What a viewer reads: the text, or the lower-case name of the kind. -/
def display (t : Token κ) : String := t.text.getD (TokenKind.name t.kind).toLower

end Token

end ConceptInventory
