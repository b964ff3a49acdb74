import ConceptInventory.Extractor
import ConceptInventory.Inventory.History
import ConceptInventory.Proofs.JsonRoundTrip
import ConceptInventory.Proofs.LiteralIdentity

/-!
# Literals as keys

An inventory knows tokens by their literals only. No two tokens of a grammar have the same
literal, so it keeps one concept for each token it was given, that of the first occurrence,
and merges no others. What stands in parentheses in a literal is the text, as a JSON string.
-/
namespace ConceptInventory

theorem Json.read_quote (s : String) : read (quote s) = .ok (.str s) := by
  have hquote : quote s = render ⟨none, false⟩ (.str s) := by
    rw [render, write, quote]
  rw [hquote]
  exact read_written _ (by rw [IsPlain]; trivial)

section
variable {κ : Type} [TokenKind κ]

/-- A classified token as an inventory is given it. -/
def Classification.stamped (c : Classification κ) (stamp : String) : Concept :=
  (Dialect.sightingOf c).at stamp

theorem Classification.same_stamped (h : TokenKind.NamesDistinct κ) (c d : Classification κ)
    (s t : String) : (c.stamped s).same (d.stamped t) = true ↔ c.token = d.token := by
  rw [Concept.same, beq_iff_eq]
  exact (Token.literal_injective h).eq_iff

variable [DecidableEq κ]

/-- Classified tokens in order, each token once, where it first occurs. -/
def firstOfToken : List (Classification κ × String) → List (Classification κ × String)
  | [] => []
  | e :: rest => e :: (firstOfToken rest).filter fun d => d.1.token != e.1.token

/-- First occurrences of a literal are first occurrences of a token. -/
theorem firstOccurrences_stamped (h : TokenKind.NamesDistinct κ)
    (es : List (Classification κ × String)) :
    firstOccurrences (es.map fun e => e.1.stamped e.2)
      = (firstOfToken es).map fun e => e.1.stamped e.2 := by
  induction es with
  | nil => rfl
  | cons e es ih =>
    have hkey (d : Classification κ × String) :
        ((d.1.stamped d.2).token != (e.1.stamped e.2).token) = (d.1.token != e.1.token) := by
      rw [Bool.eq_iff_iff, bne_iff_ne, bne_iff_ne]
      exact (Token.literal_injective h).ne_iff
    rw [List.map_cons, firstOccurrences, ih, List.filter_map, firstOfToken, List.map_cons]
    simp only [Function.comp_def, hkey]

/-- The literals of a grammar serve an inventory as keys of its tokens. -/
structure KeyedByLiteral (κ : Type) [TokenKind κ] [DecidableEq κ] : Prop where
  literal_eq_iff (s t : Token κ) : s.literal = t.literal ↔ s = t
  same_iff (c d : Classification κ) (s t : String) :
    (c.stamped s).same (d.stamped t) = true ↔ c.token = d.token
  concepts (es : List (Classification κ × String)) :
    (Inventory.ofList (es.map fun e => e.1.stamped e.2)).concepts
      = (firstOfToken es).map fun e => e.1.stamped e.2
  text (k : κ) (s : String) :
    Token.literal ⟨k, some s⟩ = TokenKind.name k ++ "(" ++ Json.quote s ++ ")"
      ∧ Json.read (Json.quote s) = .ok (.str s)

theorem TokenKind.NamesDistinct.keyedByLiteral (h : NamesDistinct κ) : KeyedByLiteral κ where
  literal_eq_iff _ _ := (Token.literal_injective h).eq_iff
  same_iff := Classification.same_stamped h
  concepts es := by rw [Inventory.concepts_ofList, firstOccurrences_stamped h]
  text _ s := ⟨rfl, Json.read_quote s⟩

end

/-- In both grammars two tokens have the same literal only if they are the same token, so an
inventory merges what has equal tokens and nothing else. The literal of a token with a text
is the name of its kind and in parentheses a JSON string that is read as the text. -/
theorem literals_are_keys : KeyedByLiteral CFamily.Kind ∧ KeyedByLiteral Python.Kind :=
  ⟨CFamily.namesDistinct.keyedByLiteral, Python.namesDistinct.keyedByLiteral⟩

/-- Two texts, the second of which looks like a literal of the first kind. -/
example : (Token.literal (κ := CFamily.Kind) ⟨.identifier, some "x\\"⟩,
    Token.literal (κ := CFamily.Kind) ⟨.stringLiteral, some "Identifier(\"x\")"⟩)
    = ("Identifier(\"x\\\\\")", "StringLiteral(\"Identifier(\\\"x\\\")\")") := by decide +kernel

end ConceptInventory
