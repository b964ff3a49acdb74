import ConceptInventory.Lexis.Cut
import Mathlib.Data.List.Chain

/-!
# Marks of a text

The marks of a text are the places at which its spans begin and end, counted in
characters. From a mark the next one is as far as the longest match of any rule,
or one character on where no rule matches anything. The first rule that matches
as far decides what token stands between the two, if one does.
-/
namespace ConceptInventory

variable {κ : Type}

/-- The places next to each other. -/
def stretches (ps : List Nat) : List (Nat × Nat) := ps.zip ps.tail

/-- The characters from one place to another. -/
def between (s : List Char) (p q : Nat) : List Char := (s.drop p).take (q - p)

namespace Grammar

/-- The longest match at the front of a text has so many characters; where nothing
is matched, one character is taken. -/
def Munches (g : Grammar κ) (s : List Char) (n : Nat) : Prop :=
  (0 < n ∧ (∃ r ∈ g.rules, r.reach s = n) ∧ ∀ r ∈ g.rules, r.reach s ≤ n)
    ∨ (n = 1 ∧ ∀ r ∈ g.rules, r.reach s = 0)

instance (g : Grammar κ) (s : List Char) (n : Nat) : Decidable (g.Munches s n) :=
  inferInstanceAs (Decidable (_ ∨ _))

structure Marks (g : Grammar κ) (s : List Char) (ps : List Nat) : Prop where
  first : ps.head? = some 0
  last : ps.getLast? = some s.length
  next : ps.IsChain fun p q => p < q ∧ g.Munches (s.drop p) (q - p)

instance (g : Grammar κ) (s : List Char) (ps : List Nat) : Decidable (g.Marks s ps) :=
  decidable_of_iff
    (ps.head? = some 0 ∧ ps.getLast? = some s.length
      ∧ ps.IsChain fun p q => p < q ∧ g.Munches (s.drop p) (q - p))
    ⟨fun h => ⟨h.1, h.2.1, h.2.2⟩, fun h => ⟨h.first, h.last, h.next⟩⟩

/-- The earliest rule that matches so many characters. -/
def decider? (g : Grammar κ) (s : List Char) (n : Nat) : Option (LexRule κ) :=
  g.rules.find? fun r => r.reach s == n

/-- The token of what stands between two marks, none if the deciding rule drops it. -/
def markedToken? (g : Grammar κ) (s : List Char) (p q : Nat) : Option (Token κ) :=
  match g.decider? (s.drop p) (q - p) with
  | none => some ⟨g.unrecognized, some (String.ofList (between s p q))⟩
  | some r =>
    match r.kind, r.keepsText with
    | none, _ => none
    | some k, true => some ⟨k, some (String.ofList (between s p q))⟩
    | some k, false => some ⟨k, none⟩

/-- The marks of a text are these and no others, they give its tokens, and between them
nothing is lost: each place lies in one stretch, and what has no token is discarded text. -/
structure MunchedBy (g : Grammar κ) (discarded : List Char → Prop) (text : String)
    (ps : List Nat) : Prop where
  marks : g.Marks text.toList ps
  only : ∀ qs, g.Marks text.toList qs → qs = ps
  tokens : g.tokenize text
    = (stretches ps).filterMap fun e => g.markedToken? text.toList e.1 e.2
  whole : ((stretches ps).flatMap fun e => between text.toList e.1 e.2) = text.toList
  placed : ∀ x < text.length, ∃! e, e ∈ stretches ps ∧ e.1 ≤ x ∧ x < e.2
  dropped : ∀ e ∈ stretches ps, g.markedToken? text.toList e.1 e.2 = none →
    discarded (between text.toList e.1 e.2)
  few : (g.tokenize text).length ≤ text.length

end Grammar

end ConceptInventory
