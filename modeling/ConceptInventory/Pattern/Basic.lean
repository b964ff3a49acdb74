/-!
# Patterns

A pattern describes the texts one lexical rule may cover: single characters,
sequence, ordered choice and repetition. Matching starts at the front of a
list of characters and backtracks in a fixed order of preference: the left
branch of a choice before the right one, a greedy repetition longest first, a
lazy one shortest first. What follows the pattern is a continuation, so the
first way of matching that the continuation accepts is the one taken. What is
left of a text knows its length, so that two matches are compared at once.

Nothing here looks at the characters before the start, and nothing but the
continuation looks at the characters after the end.
-/
namespace ConceptInventory

inductive Pattern
  | empty
  | one (ok : Char → Bool)
  | seq (p q : Pattern)
  | alt (p q : Pattern)
  | many (p : Pattern)
  | fewest (p : Pattern)

/-- What is left of a text, with its length. -/
structure Rest where
  chars : List Char
  size : Nat
  size_eq : size = chars.length

namespace Rest

def of (s : List Char) : Rest := ⟨s, s.length, rfl⟩

/-- The first character and what is left behind it. -/
def next? : Rest → Option (Char × Rest)
  | ⟨[], _, _⟩ => none
  | ⟨c :: s, n, h⟩ => some (c, ⟨s, n - 1, by rw [h]; rfl⟩)

theorem of_chars (s : Rest) : of s.chars = s := by
  obtain ⟨s, n, h⟩ := s
  cases h
  rfl

@[simp] theorem chars_of (s : List Char) : (of s).chars = s := rfl

@[simp] theorem size_of (s : List Char) : (of s).size = s.length := rfl

@[simp] theorem next?_of_cons (c : Char) (s : List Char) :
    (of (c :: s)).next? = some (c, of s) := rfl

end Rest

namespace Pattern

/-- Continuation-passing matcher: the argument is what is left to match, the
continuation receives what is left after the match. -/
abbrev Matcher (α : Type) := Rest → (Rest → Option α) → Option α

/-- Repeats a matcher, one more round before giving up. There are at most as
many rounds as the ruler has cells; the text itself is a long enough ruler for
a matcher that consumes something in every round. -/
def greedily {α : Type} (step : Matcher α) : List Char → Matcher α
  | [], s, k => k s
  | _ :: ruler, s, k => (step s fun r => greedily step ruler r k).orElse fun _ => k s

/-- Repeats a matcher, giving up before one more round. -/
def lazily {α : Type} (step : Matcher α) : List Char → Matcher α
  | [], s, k => k s
  | _ :: ruler, s, k => (k s).orElse fun _ => step s fun r => lazily step ruler r k

def run {α : Type} : Pattern → Matcher α
  | empty, s, k => k s
  | one ok, s, k =>
    match s.next? with
    | none => none
    | some (c, s) => if ok c then k s else none
  | seq p q, s, k => p.run s fun r => q.run r k
  | alt p q, s, k => (p.run s k).orElse fun _ => q.run s k
  | many p, s, k => greedily p.run s.chars s k
  | fewest p, s, k => lazily p.run s.chars s k

/-! ## Shorthands -/

def char (c : Char) : Pattern := one (· == c)

/-- The text itself, character by character. -/
def lit (s : String) : Pattern := s.toList.foldr (fun c p => seq (char c) p) empty

def oneOf (s : String) : Pattern := one s.toList.contains

def noneOf (s : String) : Pattern := one fun c => !s.toList.contains c

def any : Pattern := one fun _ => true

def plus (p : Pattern) : Pattern := seq p (many p)

def opt (p : Pattern) : Pattern := alt p empty

/-- Ordered choice among texts, the first one preferred. -/
def choice : List String → Pattern
  | [] => one fun _ => false
  | [s] => lit s
  | s :: rest => alt (lit s) (choice rest)

/-- All of the patterns in turn. -/
def inOrder (ps : List Pattern) : Pattern := ps.foldr seq empty

end Pattern

end ConceptInventory
