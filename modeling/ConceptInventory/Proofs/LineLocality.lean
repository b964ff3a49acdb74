import ConceptInventory.Proofs.Extraction
import ConceptInventory.Proofs.LineCuts
import ConceptInventory.Proofs.Neighbours

/-!
# Locality of lines

Reading two lines at once is reading one after the other. The cut of the lines
joined by a line feed shares the spans of the two cuts up to one line break, and
classification goes line by line, so both ways show the same in the same order.
Only a comment that the first line leaves open could swallow the second.
-/
namespace ConceptInventory

namespace CFamily

/-! ## What lines show -/

def sightingsOf (tokens : List (Token Kind)) : List Sighting :=
  (dialect.classifyAll tokens).filterMap fun c => c.map Dialect.sightingOf

theorem sightingsOf_lines (xs ys : List (Token Kind)) :
    sightingsOf (xs ++ .bare .lineBreak :: ys) = sightingsOf xs ++ sightingsOf ys := by
  unfold sightingsOf
  rw [classifyAll_lines rfl, List.filterMap_append, List.filterMap_cons_none rfl]

def tokensOf (spans : List (Span Kind)) : List (Token Kind) := spans.filterMap grammar.tokenOf?

theorem tokensOf_lines (before behind : List (Span Kind)) (breaks : List Char) :
    tokensOf (before ++ lineBreakSpan breaks :: behind)
      = tokensOf before ++ .bare .lineBreak :: tokensOf behind := by
  have htoken : grammar.tokenOf? (lineBreakSpan breaks) = some (.bare .lineBreak) := rfl
  unfold tokensOf
  rw [List.filterMap_append, List.filterMap_cons_some htoken]

theorem sightingsOf_spans (before behind : List (Span Kind)) (breaks : List Char) :
    sightingsOf (tokensOf (before ++ lineBreakSpan breaks :: behind))
      = sightingsOf (tokensOf before) ++ sightingsOf (tokensOf behind) := by
  rw [tokensOf_lines, sightingsOf_lines]

/-- Line breaks at the seam show nothing, so it does not matter which text has them. -/
theorem sightingsOf_joined {xs ys zs : List (Span Kind)} (h : Joined xs ys zs) :
    sightingsOf (tokensOf zs) = sightingsOf (tokensOf xs) ++ sightingsOf (tokensOf ys) := by
  obtain ⟨before, breaks, behind, rfl, hxs, hys⟩ := h
  have hfirst : sightingsOf (tokensOf xs) = sightingsOf (tokensOf before) := by
    rcases hxs with rfl | ⟨breaks, rfl⟩
    · rfl
    · rw [sightingsOf_spans before []]
      exact List.append_nil _
  have hsecond : sightingsOf (tokensOf ys) = sightingsOf (tokensOf behind) := by
    rcases hys with rfl | ⟨breaks, rfl⟩
    · rfl
    · exact sightingsOf_spans [] behind breaks
  rw [sightingsOf_spans, hfirst, hsecond]

theorem sightings_lines {a : String} (h : ClosesComments (grammar.spans a.toList)) (b : String) :
    dialect.sightings (a ++ "\n" ++ b) = dialect.sightings a ++ dialect.sightings b := by
  have htext : (a ++ "\n" ++ b).toList = a.toList ++ '\n' :: b.toList := by
    simp [String.toList_append]
  have hjoined := sightingsOf_joined (joined_spans h b.toList)
  rw [← htext] at hjoined
  exact hjoined

end CFamily

/-! ## Reading lines -/

namespace Extractor

theorem shown_lines {e : Extractor} (he : e.language.family = .cFamily) {a : String}
    (h : CFamily.ClosesComments (CFamily.grammar.spans a.toList)) (b : String) (offset : Int) :
    e.shown (a ++ "\n" ++ b) offset = e.shown a offset ++ e.shown b offset := by
  have hsightings (text : String) :
      e.language.sightings text = CFamily.dialect.sightings text := by
    rw [Language.sightings, he]
  unfold shown
  rw [hsightings, hsightings, hsightings, CFamily.sightings_lines h, List.map_append]

/-- Two lines read at once leave what they leave when read one after the other,
and are told to have shown as much that was new. -/
theorem read_lines (e : Extractor) (he : e.language.family = .cFamily) (a b : String)
    (offset : Int) (h : CFamily.ClosesComments (CFamily.grammar.spans a.toList)) :
    e.read (a ++ "\n" ++ b) offset = (e.read a offset).read b offset ∧
      e.growth (a ++ "\n" ++ b) offset
        = e.growth a offset + (e.read a offset).growth b offset := by
  have hshown := shown_lines he h b offset
  constructor
  · unfold read
    rw [hshown, Inventory.insertAll_append]
    rfl
  · unfold growth
    rw [hshown, Inventory.admitted_append]
    rfl

/-- The first line leaves a quote open and ends in an operand, and an asterisk
starts the second. -/
theorem read_lines_at_open_quote :
    CFamily.ClosesComments (CFamily.grammar.spans "'\\ /**/ n".toList) ∧
      (start "v" .java).read ("'\\ /**/ n" ++ "\n" ++ "*n") 3
        = ((start "v" .java).read "'\\ /**/ n" 3).read "*n" 3 ∧
      (start "v" .java).growth ("'\\ /**/ n" ++ "\n" ++ "*n") 3
        = (start "v" .java).growth "'\\ /**/ n" 3
          + ((start "v" .java).read "'\\ /**/ n" 3).growth "*n" 3 := by
  have hclosed : CFamily.ClosesComments (CFamily.grammar.spans "'\\ /**/ n".toList) := by
    decide +kernel
  exact ⟨hclosed, read_lines (start "v" .java) rfl _ "*n" 3 hclosed⟩

end Extractor

end ConceptInventory
