import ConceptInventory.Proofs.SurroundingGaps
import ConceptInventory.Proofs.Vocabulary

/-!
# Operands

An operand is a text that alone is one word, number or string. In front of a blank or a
semicolon it is cut off: a string ends with its quote, and of the other rules only those
for phrases go on behind a blank, which no operand starts.
-/
namespace ConceptInventory

/-! ## Texts that are cut off -/

/-- No match goes beyond a text if every pattern that starts like it stops there. -/
theorem Pattern.staysIn_of_starts {p : Pattern} {c x : Char}
    (h : p.starts c = true → p.avoids x = true) (rest b : List Char) :
    p.StaysIn (c :: rest) (x :: b) := by
  intro m hm hpre
  rcases hm.eq_nil_or_starts hpre with rfl | hstarts
  · exact List.nil_prefix
  · exact staysIn_of_avoids (h hstarts) _ _ m hm hpre

/-- A text that is cut off gives the token of the first rule that covers it. -/
theorem Grammar.Separable.tokensOf_append {κ : Type} {g : Grammar κ} {x y : Char}
    {gap : Char → Bool} {plain : List (LexRule κ)} {string : LexRule κ} {openers : List String}
    (h : g.Separable x gap plain string openers) (hy : isWordCharacter y = false)
    {s : List Char} {t : Token κ} (htoken : g.wholeToken? s = some t) (hiso : g.Isolates y s)
    (b : List Char) : g.tokensOf (s ++ y :: b) = t :: g.tokensOf (y :: b) := by
  obtain ⟨r, hr, ht⟩ := Option.bind_eq_some_iff.mp htoken
  obtain ⟨hmem, hs⟩ := covers_of_coveringRule? hr
  have hne : s ≠ [] := by
    rintro rfl
    have hnull := hs.nullable_of_nil rfl
    rw [h.nullable r hmem] at hnull
    cases hnull
  have hlongest := h.longestFirst r (h.mem_of_tokenOf? hmem ht)
  have hd := decides_of_coveringRule? hy hne hiso (.inr ⟨b, rfl⟩) hr hlongest
  rw [tokensOf_of_decides_some hd, ht]
  rfl

namespace CFamily

open Pattern

/-- The kinds that keep what an operand is written as. -/
def operandKinds : List Kind := [.identifier, .number, .stringLiteral]

/-- The text alone is one token, which keeps all of it. -/
structure Operand (k : Kind) (e : String) : Prop where
  kind : k ∈ operandKinds
  alone : grammar.tokenize e = [⟨k, some e⟩]

/-! ## The rules for operands -/

def operandRules : List (LexRule Kind) := [identifierRule, numberRule, stringRule]

/-- Letters, digits, the point and quotes. -/
def operandStarts : List Char := wordStarts ++ ("0123456789.".toList ++ "\"'".toList)

/-- Only directives and operands keep their text. -/
theorem mem_operandRules {r : LexRule Kind} (hr : r ∈ grammar.rules) (hkeeps : r.keepsText = true)
    (hkind : r.kind ≠ some .directive) : r ∈ operandRules := by
  have hothers : ((fixedRules ++ familyRules ++ [.dropped lineComment, .dropped blockComment,
      Grammar.gapRule isGap, lineEndRule]).all fun r => !r.keepsText) = true := by decide +kernel
  have hmem : r ∈ operandRules ∨ r = directiveRule ∨ r ∈ fixedRules ++ familyRules ++
      [.dropped lineComment, .dropped blockComment, Grammar.gapRule isGap, lineEndRule] := by
    simp only [rules_eq, frontRules, operandRules, List.mem_append, List.mem_cons,
      List.not_mem_nil, or_false] at hr ⊢
    tauto
  rcases hmem with hmem | rfl | hmem
  · exact hmem
  · exact (hkind rfl).elim
  · have hbare := List.all_eq_true.mp hothers r hmem
    rw [hkeeps] at hbare
    cases hbare

theorem cases_of_mem_operandRules {r : LexRule Kind} (hr : r ∈ operandRules) :
    r = identifierRule ∨ r = numberRule ∨ r = stringRule := by
  simpa [operandRules] using hr

theorem mem_operandStarts {r : LexRule Kind} (hr : r ∈ operandRules) {c : Char}
    (hc : r.pattern.starts c = true) : c ∈ operandStarts := by
  rw [operandStarts, List.mem_append, List.mem_append]
  rcases cases_of_mem_operandRules hr with rfl | rfl | rfl
  · have hword : isWordStart c = true := by
      simpa [identifierRule, identifier, LexRule.kept, starts, nullable] using hc
    exact .inl (mem_wordStarts hword)
  · exact .inr (.inl (mem_of_starts_number hc))
  · rcases starts_stringLiteral.mp hc with rfl | rfl <;> exact .inr (.inr (by decide))

/-- Of these rules only that for strings starts with a quote. -/
theorem eq_stringRule_of_starts {r : LexRule Kind} (hr : r ∈ operandRules) {c : Char}
    (hc : r.pattern.starts c = true) (hquote : stringLiteral.starts c = true) :
    r = stringRule := by
  have hclosed : c ∈ closed := by
    rcases starts_stringLiteral.mp hquote with rfl | rfl <;> decide
  have hplain (hr : r ∈ plainRules) : r = stringRule := by
    rw [(plainRules_closed hr).2 c hclosed] at hc
    cases hc
  rcases cases_of_mem_operandRules hr with rfl | rfl | rfl
  · exact hplain (by simp [plainRules, patternRules])
  · exact hplain (by simp [plainRules, patternRules])
  · rfl

/-! ## Where other rules stop -/

/-- What stands behind an operand. -/
def stops : List Char := [' ', ';']

/-- Neither is part of a word, in the narrow sense or in that of Unicode. -/
theorem stops_outside {x : Char} (hx : x ∈ stops) :
    isWordPart x = false ∧ isWordCharacter x = false := by
  simp only [stops, List.mem_cons, List.not_mem_nil, or_false] at hx
  rcases hx with rfl | rfl <;> decide

/-- The rules that stop there if they start like an operand. -/
def stoppingRules : List (LexRule Kind) :=
  fixedRules ++ lexicon.families.map (fun e => .keyword (choice e.1) e.2) ++ [directiveRule,
    identifierRule, numberRule, .dropped lineComment, .dropped blockComment,
    Grammar.gapRule isGap, lineEndRule]

theorem avoids_of_mem_stoppingRules {q : LexRule Kind} (hq : q ∈ stoppingRules) {c : Char}
    (hc : c ∈ operandStarts) (hstarts : q.pattern.starts c = true) {x : Char} (hx : x ∈ stops) :
    q.pattern.avoids x = true := by
  have hall : (stoppingRules.all fun q => stops.all q.pattern.avoids
      || operandStarts.all fun c => !q.pattern.starts c) = true := by decide +kernel
  rcases Bool.or_eq_true_iff.mp (List.all_eq_true.mp hall q hq) with havoids | hno
  · exact List.all_eq_true.mp havoids x hx
  · have hc := List.all_eq_true.mp hno c hc
    rw [hstarts] at hc
    cases hc

theorem mem_rules_stopping {r : LexRule Kind} (hr : r ∈ grammar.rules) :
    r = stringRule ∨ r ∈ lexicon.longer ∨ r ∈ stoppingRules := by
  have hspellings : lexicon.spellings.map (fun e => LexRule.fixed e.1 e.2) = fixedRules := rfl
  have hidentifier : lexicon.identifierRule = identifierRule := rfl
  simp only [rules_eq_lexicon, hspellings, hidentifier, List.mem_append, List.mem_cons,
    List.not_mem_nil, or_false] at hr
  simp only [stoppingRules, List.mem_append, List.mem_cons, List.not_mem_nil, or_false]
  tauto

/-- A phrase is its first word and goes on with a blank. -/
theorem exists_of_covers_words {ws : List String} (hlength : 2 ≤ ws.length) {m : List Char}
    (hm : (words ws).Covers m) :
    ∃ w ∈ ws.head?, ∃ c rest, m = w.toList ++ c :: rest ∧ isWordPart c = false := by
  match ws, hlength with
  | w :: v :: ws, _ =>
    obtain ⟨_, _, rfl, hw, hrest⟩ := covers_seq.mp hm
    obtain ⟨_, _, rfl, hgap, _⟩ := covers_seq.mp hrest
    obtain ⟨hne, hall⟩ := covers_plus_one.mp hgap
    obtain ⟨c, gap, rfl⟩ := List.exists_cons_of_ne_nil hne
    have hc : c = ' ' ∨ c = '\t' := by simpa using hall c List.mem_cons_self
    refine ⟨w, rfl, c, _, by rw [covers_lit.mp hw, List.cons_append], ?_⟩
    rcases hc with rfl | rfl <;> decide

/-! ## Operands are cut off -/

namespace Operand

variable {k : Kind} {e : String}

theorem exists_rule (h : Operand k e) : ∃ r ∈ operandRules, r.pattern.Covers e.toList := by
  have hmem : ⟨k, some e⟩ ∈ grammar.tokenize e := by simp [h.alone]
  rcases Grammar.cases_of_mem_tokenize hmem with hno | ⟨r, m, rest, hmatches, hkind, htext⟩
  · obtain rfl : k = .unrecognized := hno
    exact absurd h.kind (by decide)
  · have hkeeps : r.keepsText = true := by
      by_contra hno
      rw [if_neg hno] at htext
      cases htext
    rw [hkeeps, if_pos rfl] at htext
    obtain rfl : e = String.ofList m := Option.some.inj htext
    refine ⟨r, mem_operandRules hmatches.mem hkeeps ?_, ?_⟩
    · rw [hkind]
      rintro ⟨⟩
      exact absurd h.kind (by decide)
    · rw [String.toList_ofList]
      exact hmatches.covers

theorem wholeToken? (h : Operand k e) : grammar.wholeToken? e.toList = some ⟨k, some e⟩ := by
  obtain ⟨r, hr, hcovers⟩ := h.exists_rule
  obtain ⟨t, ht⟩ : ∃ t, grammar.wholeToken? e.toList = some t := by
    rcases cases_of_mem_operandRules hr with rfl | rfl | rfl
    · exact ⟨_, governs.wholeToken?_word (isWord_of_covers hcovers)⟩
    · exact ⟨_, wholeToken?_number hcovers⟩
    · exact ⟨_, wholeToken?_string hcovers⟩
  have hone := separable.tokenize_of_wholeToken? ht
  rw [String.ofList_toList, h.alone] at hone
  rw [ht, (List.cons.inj hone).1]

theorem isWord (h : Operand k e) (hs : StartsWord e.toList) : IsWord e.toList := by
  obtain ⟨r, hr, hcovers⟩ := h.exists_rule
  rcases cases_of_mem_operandRules hr with rfl | rfl | rfl
  · exact isWord_of_covers hcovers
  · exact (not_covers_word (by simp [wordlessRules]) hs hcovers).elim
  · exact (not_covers_word (by simp [wordlessRules]) hs hcovers).elim

/-- The words that phrases start with are reserved, so no operand is one of them. -/
theorem not_covers_phrase (h : Operand k e) {x : Char} (hx : isWordPart x = false)
    {q : LexRule Kind} (hq : q ∈ lexicon.longer) {m b : List Char}
    (hpre : m <+: e.toList ++ x :: b) : ¬q.pattern.Covers m := by
  have hphrases : ∀ p ∈ phrases, 2 ≤ p.1.length ∧ ∀ w ∈ p.1.head?, IsWord w.toList
      ∧ ∀ t ∈ grammar.tokenize w, t.text = none := by decide +kernel
  intro hm
  obtain ⟨p, hp, rfl⟩ := List.mem_map.mp hq
  obtain ⟨hlength, hfirst⟩ := hphrases p hp
  obtain ⟨w, hw, c, rest, rfl, hc⟩ := exists_of_covers_words hlength hm
  obtain ⟨hword, hbare⟩ := hfirst w hw
  obtain ⟨t, ht⟩ := hpre
  rw [List.append_assoc, List.cons_append] at ht
  have hstarts : StartsWord e.toList := by
    obtain ⟨d, letters, hletters, hd⟩ := hword.exists_cons
    rw [hletters] at ht
    cases he : e.toList with
    | nil =>
      rw [he] at ht
      rw [← (List.cons.inj ht).1, isWordPart_of_isWordStart hd] at hx
      cases hx
    | cons d' letters' =>
      rw [he] at ht
      exact ⟨d', letters', rfl, (List.cons.inj ht).1 ▸ hd⟩
  have hsame := congrArg frontWord ht
  rw [frontWord_append_cons hword.all hc, frontWord_append_cons (h.isWord hstarts).all hx] at hsame
  obtain rfl := String.toList_injective hsame
  cases hbare ⟨k, some w⟩ (by simp [h.alone])

theorem isolates (h : Operand k e) {x : Char} (hx : x ∈ stops) :
    grammar.Isolates x e.toList := by
  have hnullable : (operandRules.all fun r => !r.pattern.nullable) = true := by decide +kernel
  obtain ⟨r, hr, hcovers⟩ := h.exists_rule
  obtain ⟨c, rest, he, hc⟩ :=
    hcovers.exists_cons (by simpa using List.all_eq_true.mp hnullable r hr)
  intro q hq m b hm hpre
  rcases mem_rules_stopping hq with rfl | hlonger | hstopping
  · rcases hm.eq_nil_or_starts (he ▸ hpre) with rfl | hquote
    · exact List.nil_prefix
    · obtain rfl := eq_stringRule_of_starts hr hc hquote
      exact separable.staysIn_string hcovers List.prefix_rfl m hm hpre
  · exact (h.not_covers_phrase (stops_outside hx).1 hlonger hpre hm).elim
  · have havoids (hstarts : q.pattern.starts c = true) : q.pattern.avoids x = true :=
      avoids_of_mem_stoppingRules hstopping (mem_operandStarts hr hc) hstarts hx
    rw [he] at hpre ⊢
    exact staysIn_of_starts havoids rest b m hm hpre

/-- In front of a blank or a semicolon an operand is the token it is alone. -/
theorem tokensOf_append (h : Operand k e) {x : Char} (hx : x ∈ stops) (b : List Char) :
    grammar.tokensOf (e.toList ++ x :: b) = ⟨k, some e⟩ :: grammar.tokensOf (x :: b) :=
  separable.tokensOf_append (stops_outside hx).2 h.wholeToken? (h.isolates hx) b

end Operand

end CFamily

end ConceptInventory
