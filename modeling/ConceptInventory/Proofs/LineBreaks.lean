import ConceptInventory.Grammars.CFamily
import ConceptInventory.Proofs.CutDecision

/-!
# Line breaks in the C family

A line break is a token of its own, and a run of them is one token. No rule but
the block comment takes a line feed together with other characters, which is
checked for the whole grammar by evaluation. A block comment runs up to its first
close, over line feeds as well, and a comment that is not closed is none.
-/
namespace ConceptInventory.CFamily

open Pattern

/-! ## The rules -/

def isBreak : Char → Bool := "\r\n".toList.contains

def blockCommentRule : LexRule Kind := .dropped blockComment

def lineBreakRule : LexRule Kind := .folded (plus (one isBreak)) .lineBreak

/-- The rules in front of the block comment, and that of the other blanks. -/
def lineRules : List (LexRule Kind) :=
  spellings.map (fun e => .fixed e.1 e.2)
    ++ keywordFamilies.map (fun e => .keyword e.1 e.2)
    ++ [⟨directive, true, some .directive, true⟩, .kept identifier .identifier,
      .kept number .number, .kept stringLiteral .stringLiteral, .dropped lineComment]

def blanksRule : LexRule Kind := .dropped (plus (oneOf " \t\x0c\x0b"))

theorem grammar_rules :
    grammar.rules = (lineRules ++ [blockCommentRule, blanksRule]) ++ lineBreakRule :: [] := by
  simp only [grammar, lineRules, List.append_assoc]
  rfl

theorem isBreak_iff (c : Char) : isBreak c = true ↔ c = '\r' ∨ c = '\n' := by
  simp [isBreak]

/-- No rule of a line takes a line feed, and neither does that of the blanks. -/
theorem lineRules_stop : ((blanksRule :: lineRules).all fun r => r.stopsAt '\n') = true := by
  decide +kernel

theorem stopsAt_of_mem {r : LexRule Kind} (hr : r ∈ grammar.rules) :
    r = blockCommentRule ∨ r = lineBreakRule ∨ r.stopsAt '\n' = true := by
  rw [grammar_rules] at hr
  simp only [List.mem_append, List.mem_cons, List.not_mem_nil, or_false] at hr
  rcases hr with (hr | rfl | rfl) | rfl
  · exact .inr (.inr (List.all_eq_true.mp lineRules_stop r (List.mem_cons_of_mem _ hr)))
  · exact .inl rfl
  · exact .inr (.inr (List.all_eq_true.mp lineRules_stop blanksRule List.mem_cons_self))
  · exact .inr (.inl rfl)

/-- Only the rule for breaks starts with a break. -/
theorem starts_break {r : LexRule Kind} (hr : r ∈ lineRules ++ [blockCommentRule, blanksRule])
    {c : Char} (hc : isBreak c = true) : r.pattern.starts c = false := by
  have hall : ((lineRules ++ [blockCommentRule, blanksRule]).all fun r =>
      !r.pattern.starts '\r' && !r.pattern.starts '\n') = true := by decide +kernel
  have hboth : r.pattern.starts '\r' = false ∧ r.pattern.starts '\n' = false := by
    simpa using List.all_eq_true.mp hall r hr
  rcases (isBreak_iff c).mp hc with rfl | rfl
  · exact hboth.1
  · exact hboth.2

theorem left_lineBreakRule (s : List Char) : lineBreakRule.left s = s.dropWhile isBreak :=
  LexRule.left_run rfl rfl s

/-! ## The block comment -/

/-- The text behind the first close of a comment. -/
def behindClose : List Char → Option (List Char)
  | [] => none
  | c :: u => if "*/".toList <+: c :: u then some (u.drop 1) else behindClose u

theorem behindClose_isSome_iff (u : List Char) :
    (behindClose u).isSome = true ↔ "*/".toList <:+: u := by
  induction u with
  | nil => simp [behindClose]
  | cons c u ih =>
    rw [behindClose, List.infix_cons_iff]
    by_cases h : "*/".toList <+: c :: u
    · rw [if_pos h]
      constructor
      · intro _
        exact .inl h
      · intro _
        rfl
    · rw [if_neg h, ih]
      constructor
      · intro hu
        exact .inr hu
      · intro hu
        exact hu.resolve_left h

theorem behindClose_append {u t : List Char} (h : behindClose u = some t) (w : List Char) :
    behindClose (u ++ w) = some (t ++ w) := by
  induction u with
  | nil => cases h
  | cons c u ih =>
    rw [behindClose] at h
    rw [List.cons_append, behindClose]
    cases u with
    | nil => simp [behindClose] at h
    | cons d u =>
      have hiff : "*/".toList <+: c :: (d :: u ++ w) ↔ "*/".toList <+: c :: d :: u := by
        simp [List.cons_prefix_cons]
      by_cases hc : "*/".toList <+: c :: d :: u
      · rw [if_pos hc] at h
        rw [if_pos (hiff.mpr hc), ← Option.some.inj h]
        rfl
      · rw [if_neg hc] at h
        rw [if_neg (mt hiff.mp hc)]
        exact ih h

theorem head?_rests_close (u : List Char) :
    ((seq (fewest any) (seq (lit "*/") empty)).rests u).head? = behindClose u := by
  induction u with
  | nil => rfl
  | cons c u ih =>
    have hrest : (seq (fewest any) (seq (lit "*/") empty)).rests (c :: u)
        = (lit "*/").rests (c :: u) ++ (seq (fewest any) (seq (lit "*/") empty)).rests u := by
      simp [rests, fewestRests, any]
    rw [hrest, List.head?_append, ih, rests_lit, behindClose]
    by_cases h : "*/".toList <+: c :: u
    · rw [if_pos h, if_pos h]
      rfl
    · rw [if_neg h, if_neg h]
      rfl

/-- A block comment ends at its first close. -/
theorem rest?_blockCommentRule (s : List Char) : blockCommentRule.rest? (.of s)
    = if "/*".toList <+: s then (behindClose (s.drop 2)).map Rest.of else none := by
  have hrests : blockCommentRule.pattern.rests s = if "/*".toList <+: s
      then (seq (fewest any) (seq (lit "*/") empty)).rests (s.drop 2) else [] := by
    change (seq (lit "/*") (seq (fewest any) (seq (lit "*/") empty))).rests s = _
    rw [rests, rests_lit]
    by_cases h : "/*".toList <+: s
    · rw [if_pos h, if_pos h, List.flatMap_singleton]
      rfl
    · rw [if_neg h, if_neg h, List.flatMap_nil]
  rw [LexRule.rest?_eq_head? rfl, hrests]
  by_cases h : "/*".toList <+: s
  · rw [if_pos h, if_pos h, head?_rests_close]
  · rw [if_neg h, if_neg h]
    rfl

/-- A comment the text itself closes ends where it ends there. -/
theorem left_blockCommentRule_append {s : List Char}
    (h : "/*".toList <+: s → "*/".toList <:+: s.drop 2) (b : List Char) :
    blockCommentRule.left (s ++ '\n' :: b) = blockCommentRule.left s ++ '\n' :: b := by
  apply LexRule.left_append_of_rest?
  rw [rest?_blockCommentRule, rest?_blockCommentRule]
  by_cases hopen : "/*".toList <+: s
  · obtain ⟨t, ht⟩ := Option.isSome_iff_exists.mp ((behindClose_isSome_iff _).mpr (h hopen))
    have hdrop : (s ++ '\n' :: b).drop 2 = s.drop 2 ++ '\n' :: b :=
      List.drop_append_of_le_length hopen.length_le
    rw [if_pos hopen, if_pos (hopen.trans (List.prefix_append _ _)), hdrop,
      behindClose_append ht, ht]
    rfl
  · have hopen' : ¬"/*".toList <+: s ++ '\n' :: b := by
      intro hpre
      match s with
      | [] => simp at hpre
      | [c] => simp at hpre
      | c :: d :: s =>
        apply hopen
        simpa [List.cons_prefix_cons] using hpre
    rw [if_neg hopen, if_neg hopen']
    rfl

end ConceptInventory.CFamily
