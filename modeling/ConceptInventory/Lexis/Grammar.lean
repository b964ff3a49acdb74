import ConceptInventory.Lexis.Token
import ConceptInventory.Pattern.Basic
import ConceptInventory.Text.WordCharacter

/-!
# Longest-match scanning

A grammar is an ordered list of rules. At each place of a text every rule is
tried; the longest match decides, the earliest rule among equals. A rule
without a kind drops what it matches. Where no rule matches a non-empty text,
one character is taken by itself. So scanning never fails: it cuts any text
into spans, and the tokens are those spans whose deciding rule has a kind,
together with the characters no rule matches.
-/
namespace ConceptInventory

structure LexRule (κ : Type) where
  pattern : Pattern
  /-- The match must not be followed by a word character. -/
  wholeWord : Bool
  /-- No kind: the match is dropped. -/
  kind : Option κ
  keepsText : Bool

namespace LexRule

variable {κ : Type}

/-- A match of the rule may end in front of a text. -/
def endsAt (r : LexRule κ) (t : List Char) : Bool := !r.wholeWord || atWordEnd t

/-- What is left of a text after the match of the rule at its front. -/
def rest? (r : LexRule κ) (s : Rest) : Option Rest :=
  r.pattern.run s fun t => if r.endsAt t.chars then some t else none

/-- A rule for a fixed text. -/
def fixed (s : String) (k : κ) : LexRule κ := ⟨.lit s, false, some k, false⟩

/-- A rule for a pattern whose text is forgotten. -/
def folded (p : Pattern) (k : κ) : LexRule κ := ⟨p, false, some k, false⟩

/-- A rule for keywords, which must end where the word ends. -/
def keyword (p : Pattern) (k : κ) : LexRule κ := ⟨p, true, some k, false⟩

def kept (p : Pattern) (k : κ) : LexRule κ := ⟨p, false, some k, true⟩

def dropped (p : Pattern) : LexRule κ := ⟨p, false, none, false⟩

end LexRule

structure Grammar (κ : Type) where
  rules : List (LexRule κ)
  /-- The kind of a character no rule matches. -/
  unrecognized : κ

/-- A stretch of text and the rule that decided it, if one did. -/
structure Span (κ : Type) where
  text : List Char
  rule : Option (LexRule κ)

namespace Grammar

variable {κ : Type}

/-- Tries one more rule at the front of a text. It displaces an earlier one only
by leaving strictly less. -/
def better (s : Rest) (best : Option (LexRule κ × Rest)) (r : LexRule κ) :
    Option (LexRule κ × Rest) :=
  match r.rest? s with
  | none => best
  | some t => if t.size < (best.elim s Prod.snd).size then some (r, t) else best

/-- The deciding rule at the front of a text and what it leaves. -/
def longest (g : Grammar κ) (s : Rest) : Option (LexRule κ × Rest) :=
  g.rules.foldl (better s) none

/-- Cuts a text into spans; the ruler is at least as long as the text. -/
def scan (g : Grammar κ) : List Char → Rest → List (Span κ)
  | [], _ => []
  | _ :: ruler, s =>
    match s.next? with
    | none => []
    | some (c, rest) =>
      match g.longest s with
      | none => ⟨[c], none⟩ :: g.scan ruler rest
      | some (r, t) => ⟨s.chars.take (s.size - t.size), some r⟩ :: g.scan ruler t

def spans (g : Grammar κ) (s : List Char) : List (Span κ) := g.scan s (.of s)

/-- The token of a span, none if its rule drops the text. -/
def tokenOf? (g : Grammar κ) (span : Span κ) : Option (Token κ) :=
  match span.rule with
  | none => some ⟨g.unrecognized, some (String.ofList span.text)⟩
  | some r => r.kind.map fun k => ⟨k, if r.keepsText then some (String.ofList span.text) else none⟩

def tokenize (g : Grammar κ) (text : String) : List (Token κ) :=
  (g.spans text.toList).filterMap g.tokenOf?

end Grammar

end ConceptInventory
