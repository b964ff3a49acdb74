import ConceptInventory.CommandLine.Program
import ConceptInventory.Proofs.FindingsRoundTrip
import ConceptInventory.Proofs.FragmentOrder
import ConceptInventory.Proofs.LineageHistory
import ConceptInventory.Proofs.Neighbours
import ConceptInventory.Proofs.RootTally

/-!
# The token list shows what is recorded

The list has a row for each token of a text, and an extractor goes through the same
tokens. What its rows resolve to, repetitions left out, is what a fresh extractor records
of the text. A repeated row has the categories of the first one, since a literal is filed
in one place only.
-/
namespace ConceptInventory

open Json

/-- First occurrences have the tokens of their history, repetitions left out. -/
theorem map_token_firstOccurrences (cs : List Concept) :
    (firstOccurrences cs).map Concept.token = (cs.map Concept.token).eraseDups := by
  induction cs using List.reverseRecOn with
  | nil => rfl
  | append_singleton cs c ih =>
    rw [firstOccurrences_append, List.map_append, ih, List.map_append, List.map_singleton,
      eraseDups_concat]
    have hone : firstOccurrences [c] = [c] := rfl
    by_cases hc : c.token ∈ cs.map Concept.token
    · rw [hone, if_pos hc, List.filter_singleton, List.contains_iff_mem.mpr hc]
      exact List.append_nil _
    · have hnew : (cs.map Concept.token).contains c.token = false := by simpa using hc
      rw [hone, if_neg hc, List.filter_singleton, hnew]
      rfl

/-! ## Readings -/

namespace Dialect

variable {κ : Type} [TokenKind κ]

/-- A reading for each token, in order. -/
theorem map_token_readings (d : Dialect κ) (text : String) :
    (d.readings text).map Reading.token = (d.grammar.tokenize text).map Token.literal := by
  have hlength := d.length_classifyAll (d.grammar.tokenize text)
  calc (d.readings text).map Reading.token
    _ = (((d.grammar.tokenize text).zip
        (d.classifyAll (d.grammar.tokenize text))).map Prod.fst).map Token.literal := by
      rw [readings, List.map_map, List.map_map]
      rfl
    _ = (d.grammar.tokenize text).map Token.literal := by
      rw [List.map_fst_zip (Nat.le_of_eq hlength.symm)]

end Dialect

namespace Language

/-- The literals of the tokens of a text, in text order. -/
def literals (l : Language) (text : String) : List String :=
  match l.family with
  | .cFamily => (CFamily.grammar.tokenize text).map Token.literal
  | .python => (Python.grammar.tokenize text).map Token.literal

theorem map_token_readings (l : Language) (text : String) :
    (l.readings text).map Reading.token = l.literals text := by
  unfold readings literals
  cases l.family with
  | cFamily => exact CFamily.dialect.map_token_readings text
  | python => exact Python.dialect.map_token_readings text

end Language

/-! ## A fresh extractor -/

namespace Extractor

variable (source : String) (l : Language) (text : String) (offset : Int)

/-- A fresh extractor records each token that the text shows, where it comes first. -/
theorem tokens_read_start : ((start source l).read text offset).inventory.tokens
    = ((l.sightings text).map Sighting.token).eraseDups := by
  have hconcepts : ((start source l).read text offset).inventory.concepts
      = firstOccurrences ((start source l).shown text offset) := Inventory.concepts_ofList _
  rw [Inventory.tokens, hconcepts, map_token_firstOccurrences,
    tokens_shown source l (text, offset)]

/-- What a fresh extractor holds for a token is filed where the text shows it. -/
theorem get?_read_start {s : Sighting} (hs : s ∈ l.sightings text) :
    ∃ c, ((start source l).read text offset).inventory.get? s.token = some c
      ∧ c.path = s.path := by
  have hconcepts : ((start source l).read text offset).inventory.concepts
      = firstOccurrences ((start source l).shown text offset) := Inventory.concepts_ofList _
  have hfound : ((start source l).read text offset).inventory.get? s.token
      = ((start source l).shown text offset).find? fun c => c.token == s.token := by
    rw [Inventory.get?, hconcepts, find?_firstOccurrences]
  cases hfirst : ((start source l).shown text offset).find? fun c => c.token == s.token with
  | none =>
    have hnone := List.find?_eq_none.mp hfirst _ (List.mem_map_of_mem hs)
    exact absurd (beq_self_eq_true s.token) hnone
  | some c =>
    obtain ⟨s', hs', rfl⟩ := List.mem_map.mp (List.mem_of_find?_eq_some hfirst)
    have hkey := List.find?_some hfirst
    have hsame : s' = s := Language.sighting_unique (Language.classifies_of_mem_sightings hs')
      (Language.classifies_of_mem_sightings hs) (beq_iff_eq.mp hkey)
    exact ⟨_, hfound.trans hfirst, by rw [hsame]; rfl⟩

end Extractor

/-! ## Rows -/

namespace CommandLine

/-- A row of the token list: a token, what it is resolved to, and its categories. -/
structure TokenRow where
  token : String
  resolved : Option String
  chain : Option String
deriving DecidableEq, Repr

namespace TokenRow

def ofReading (r : Reading) : TokenRow :=
  ⟨r.token, r.sighting.map Sighting.token, r.sighting.map fun s => s.path.render⟩

def toJson (r : TokenRow) : Json :=
  .obj [("token", .str r.token), ("resolved", textOrNull r.resolved),
    ("chain", textOrNull r.chain)]

theorem toJson_ofReading (r : Reading) : (ofReading r).toJson = readingJson r := by
  cases h : r.sighting <;> simp [ofReading, toJson, readingJson, textOrNull, h]

theorem arePlain_rows (rows : List TokenRow) : ArePlain (rows.map toJson) := by
  induction rows with
  | nil => simp [ArePlain]
  | cons r rows ih =>
    refine ⟨?_, ih⟩
    simp [toJson, IsPlain, FieldsArePlain, isPlain_textOrNull]

end TokenRow

/-- Rows for the tokens of a text, with what an extractor makes of each. -/
structure ListsTokens (l : Language) (text : String) (rows : List TokenRow) : Prop where
  tokens : rows.map TokenRow.token = l.literals text
  null_iff : ∀ r ∈ rows, r.resolved = none ↔ r.chain = none
  recorded : ∀ source offset,
    ((Extractor.start source l).read text offset).inventory.tokens
      = (rows.filterMap TokenRow.resolved).eraseDups
  filed : ∀ source offset, ∀ r ∈ rows, ∀ token, r.resolved = some token →
    ∃ c, ((Extractor.start source l).read text offset).inventory.get? token = some c
      ∧ r.chain = some (" -> ".intercalate c.path.names)

theorem listsTokens_readings (l : Language) (text : String) :
    ListsTokens l text ((l.readings text).map .ofReading) where
  tokens := by
    rw [← l.map_token_readings, List.map_map]
    rfl
  null_iff := by
    intro row hrow
    obtain ⟨r, _, rfl⟩ := List.mem_map.mp hrow
    cases h : r.sighting <;> simp [TokenRow.ofReading, h]
  recorded := by
    intro source offset
    have hresolved : ((l.readings text).map TokenRow.ofReading).filterMap TokenRow.resolved
        = (l.sightings text).map Sighting.token := by
      rw [← l.filterMap_sighting_readings, List.filterMap_map, List.map_filterMap]
      rfl
    rw [hresolved, Extractor.tokens_read_start]
  filed := by
    intro source offset row hrow token htoken
    obtain ⟨r, hr, rfl⟩ := List.mem_map.mp hrow
    obtain ⟨s, hs, rfl⟩ := Option.map_eq_some_iff.mp htoken
    have hmem : s ∈ l.sightings text := by
      rw [← l.filterMap_sighting_readings]
      exact List.mem_filterMap.mpr ⟨r, hr, hs⟩
    obtain ⟨c, hc, hpath⟩ := Extractor.get?_read_start source l text offset hmem
    refine ⟨c, hc, ?_⟩
    rw [hpath]
    simp only [TokenRow.ofReading, hs, Option.map_some]
    rfl

/-- The token list as JSON: read back it has a row for each token, and the rows that are
resolved tell what any fresh extractor of the language records of the text. -/
theorem perform_tokens_lists (s : Surroundings) (text : String) (l : Language) :
    ∃ rows, ListsTokens l text rows ∧ (perform s (.tokens text l true)).exit = 0
      ∧ Json.read (perform s (.tokens text l true)).printed
        = .ok (.arr (rows.map TokenRow.toJson)) := by
  refine ⟨_, listsTokens_readings l text, rfl, ?_⟩
  have hrows : ((l.readings text).map TokenRow.ofReading).map TokenRow.toJson
      = (l.readings text).map readingJson := by
    rw [List.map_map]
    exact List.map_congr_left fun r _ => TokenRow.toJson_ofReading r
  have hplain : (Json.arr ((l.readings text).map readingJson)).IsPlain := by
    rw [← hrows]
    exact TokenRow.arePlain_rows _
  have hdocument := document_write (indented false) hplain (by decide : AllBlank ['\n'])
  have hprinted : (perform s (.tokens text l true)).printed.toList
      = write (indented false) 0 (.arr ((l.readings text).map readingJson)) ++ ['\n'] := by
    have hresult : perform s (.tokens text l true) = .success
        ((Json.arr ((l.readings text).map readingJson)).render (indented false) ++ "\n") := rfl
    rw [hresult, Result.success, String.toList_append, Json.render, String.toList_ofList]
    rfl
  rw [Json.read, hprinted, hdocument, hrows]

-- The star is resolved, the name behind it is passed over.
example : (Language.readings .cpp "*p").map TokenRow.ofReading
    = [⟨"Asterisk", some "Pointer", some "Declaration -> Declarator -> Pointer"⟩,
      ⟨"Identifier(\"p\")", none, none⟩] := by decide +kernel

end CommandLine

end ConceptInventory
