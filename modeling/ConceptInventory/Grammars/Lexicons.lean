import ConceptInventory.Grammars.CFamily
import ConceptInventory.Grammars.Python
import ConceptInventory.Lexis.Lexicon

/-!
# The words of the two grammars

The keywords of the C family that are not spelled out are phrases of two or three words,
and words that must end where the word ends. In Python two phrases and calls go beyond
a word.
-/
namespace ConceptInventory

namespace CFamily

def phrases : List (List String × Kind) := [
  (["else", "if"], .kwElseIf),
  (["short", "int"], .kwShortInt),
  (["long", "int"], .kwLongInt),
  (["long", "long"], .kwLongLong),
  (["long", "long", "int"], .kwLongLongInt),
  (["long", "double"], .kwLongDouble)]

def wordFamilies : List (List String × Kind) := [
  (["char8_t", "char16_t", "char32_t", "wchar_t", "char"], .kwChar),
  (["boolean", "bool"], .kwBool),
  (["String", "string"], .kwString),
  (["_Thread_local", "thread_local"], .kwThreadLocal),
  (["_Atomic", "atomic_int"], .kwAtomic),
  (["const_cast", "static_cast", "dynamic_cast", "reinterpret_cast"], .kwTypeCast),
  (["nullptr", "NULL", "null", "Null"], .kwNull)]

theorem keywordFamilies_eq : keywordFamilies
    = phrases.map (fun e => (words e.1, e.2))
      ++ wordFamilies.map fun e => (Pattern.choice e.1, e.2) := rfl

theorem mem_keywordFamilies {e : Pattern × Kind} : e ∈ keywordFamilies
    ↔ (∃ p ∈ phrases, (words p.1, p.2) = e)
      ∨ ∃ f ∈ wordFamilies, (Pattern.choice f.1, f.2) = e := by
  rw [keywordFamilies_eq, List.mem_append, List.mem_map, List.mem_map]

def lexicon : Lexicon Kind where
  spellings := spellings
  families := wordFamilies
  longer := phrases.map fun e => .keyword (words e.1) e.2
  identifier := .identifier

end CFamily

namespace Python

def lexicon : Lexicon Kind where
  spellings := spellings
  families := []
  longer := [.keyword (twoWords "is" "not") .kwIsNot, .keyword (twoWords "not" "in") .kwNotIn,
    .folded call .functionCall]
  identifier := .identifier

end Python

end ConceptInventory
