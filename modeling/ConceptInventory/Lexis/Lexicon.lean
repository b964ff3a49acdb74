import ConceptInventory.Lexis.Grammar
import ConceptInventory.Pattern.Language

/-!
# Words of a grammar

What a grammar makes of a word, said without the order of its rules. Some words have one
kind wherever they stand; some are keywords only where the word ends in the sense of
Unicode, which has more word characters than identifiers may hold; all others are
identifiers. A few rules take a word with more behind it, and the longest such match goes
before the word alone.
-/
namespace ConceptInventory

variable {κ : Type}

/-- A span of a text, with what stands behind it. -/
def Grammar.HasSpan (g : Grammar κ) (text : List Char) (span : Span κ) (behind : List Char) :
    Prop :=
  ∃ before after, g.spans text = before ++ span :: after ∧ after.flatMap Span.text = behind

/-- The rule matches all of the first text and may end in front of the second. -/
structure LexRule.MayTake (r : LexRule κ) (m t : List Char) : Prop where
  covers : r.pattern.Covers m
  ends : r.endsAt t = true

def StartsWord (s : List Char) : Prop := ∃ c rest, s = c :: rest ∧ isWordStart c = true

/-- The letters, digits and underscores at the front of a text. -/
def frontWord (s : List Char) : List Char := s.takeWhile isWordPart

structure Lexicon (κ : Type) where
  /-- Words and signs with one spelling. -/
  spellings : List (String × κ)
  /-- Words with several spellings, which must end where the word ends. -/
  families : List (List String × κ)
  /-- The rules that take more than a word. -/
  longer : List (LexRule κ)
  identifier : κ

namespace Lexicon

/-- The kind of a word in front of a text, none if it is no keyword there. -/
def keyword? (l : Lexicon κ) (w t : List Char) : Option κ :=
  match l.spellings.find? fun e => e.1.toList == w with
  | some e => some e.2
  | none =>
    if atWordEnd t then (l.families.find? fun e => e.1.any fun v => v.toList == w).map Prod.snd
    else none

def token (l : Lexicon κ) (w t : List Char) : Token κ :=
  match l.keyword? w t with
  | some k => .bare k
  | none => ⟨l.identifier, some (String.ofList w)⟩

/-- At the front of a text stands one that a rule for more than a word may take. -/
def Extends (l : Lexicon κ) (s m : List Char) : Prop :=
  ∃ t, s = m ++ t ∧ ∃ r ∈ l.longer, r.MayTake m t

/-- A span that starts with a word holds all of it. It is the longest text at its place that
a rule for more than a word may take; if there is none, it is the word. -/
structure Reads (l : Lexicon κ) (g : Grammar κ) (span : Span κ) (behind : List Char) : Prop where
  whole : frontWord (span.text ++ behind) <+: span.text
  longer : (∃ m, l.Extends (span.text ++ behind) m) →
    (∃ r ∈ l.longer, span.rule = some r ∧ r.MayTake span.text behind)
      ∧ ∀ m, l.Extends (span.text ++ behind) m → m.length ≤ span.text.length
  word : (∀ m, ¬l.Extends (span.text ++ behind) m) →
    span.text = frontWord (span.text ++ behind)
      ∧ g.tokenOf? span = some (l.token span.text behind)

/-- An identifier that is spelled like a keyword and would be one, but that a word character
beyond ASCII comes next. -/
structure Overlooks (l : Lexicon κ) (t : Token κ) (behind : List Char) : Prop where
  kind : t.kind = l.identifier
  spelled : ∃ e ∈ l.families, ∃ v ∈ e.1, t.text = some v
  next : ∃ c rest, behind = c :: rest ∧ 0x80 ≤ c.toNat ∧ isWordCharacter c = true

end Lexicon

end ConceptInventory
