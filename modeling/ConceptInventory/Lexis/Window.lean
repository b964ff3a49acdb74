import ConceptInventory.Lexis.Token

/-!
# Token windows

A window stands at one place of a token list and looks at its neighbours by
distance. Places outside the list hold no token: looking there never wraps
around, so a negative place is not counted from the end.
-/
namespace ConceptInventory

structure Window (κ : Type) where
  tokens : Array (Token κ)
  index : Int
deriving Repr

namespace Window

variable {κ : Type}

def peek (w : Window κ) (offset : Int) : Option (Token κ) :=
  match w.index + offset with
  | .ofNat i => w.tokens[i]?
  | .negSucc _ => none

def current (w : Window κ) : Option (Token κ) := w.peek 0

def previous (w : Window κ) (distance : Int) : Option (Token κ) := w.peek (-distance)

def next (w : Window κ) (distance : Int) : Option (Token κ) := w.peek distance

/-- A window at each token in turn. -/
def each (tokens : List (Token κ)) : List (Window κ) :=
  let all := tokens.toArray
  (List.range all.size).map fun i => ⟨all, Int.ofNat i⟩

end Window

/-- The literal of what a window shows, with a word of its own for a place
that holds no token. -/
def shownLiteral {κ : Type} [TokenKind κ] : Option (Token κ) → String
  | some t => t.literal
  | none => "NoToken"

end ConceptInventory
