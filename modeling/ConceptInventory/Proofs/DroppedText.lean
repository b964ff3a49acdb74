import ConceptInventory.Proofs.CFamilyTexts
import ConceptInventory.Proofs.LineBreaks
import ConceptInventory.Proofs.PythonTexts

/-!
# Dropped text

What the rule of a span says about its text, and which spans have no token: runs
of blanks and comments. A comment to the end of the line holds no line break, and
a block comment holds no close but its own.
-/
namespace ConceptInventory

variable {κ : Type}

/-! ## The rule of a span -/

namespace LexRule

/-- What a rule that reaches somewhere leaves is the rest of its match. -/
theorem rest?_of_left {r : LexRule κ} {s rest : List Char} (hleft : r.left s = rest)
    (hlt : rest.length < s.length) : r.rest? (.of s) = some (.of rest) := by
  rw [left] at hleft
  cases h : r.rest? (.of s) with
  | none =>
    rw [h] at hleft
    obtain rfl : s = rest := hleft
    exact absurd hlt (Nat.lt_irrefl _)
  | some t =>
    rw [h] at hleft
    obtain rfl : t.chars = rest := hleft
    rw [Rest.of_chars]

end LexRule

namespace Grammar

variable {g : Grammar κ}

/-- A rule of the grammar matches a text that stands in front of another. -/
structure Matches (g : Grammar κ) (r : LexRule κ) (m rest : List Char) : Prop where
  mem : r ∈ g.rules
  left : r.rest? (.of (m ++ rest)) = some (.of rest)
  ne_nil : m ≠ []

theorem Matches.covers {r : LexRule κ} {m rest : List Char} (h : g.Matches r m rest) :
    r.pattern.Covers m := by
  obtain ⟨n, hn, hcovers⟩ := LexRule.rest?_eq_append h.left
  rw [Rest.chars_of, List.append_cancel_right_eq] at hn
  exact hn ▸ hcovers

theorem matches_of_decides {r : LexRule κ} {m rest : List Char}
    (h : Decides g.rules (m ++ rest) (some (r, .of rest))) : g.Matches r m rest := by
  obtain ⟨before, after, hrules, hleft, hlt, _, _⟩ := h
  rw [Rest.chars_of] at hleft
  rw [Rest.size_of] at hlt
  refine ⟨by simp [hrules], LexRule.rest?_of_left hleft hlt, ?_⟩
  rintro rfl
  exact Nat.lt_irrefl _ hlt

theorem Cut.matches_of_mem {s : List Char} {spans : List (Span κ)} (h : g.Cut s spans)
    {span : Span κ} (hspan : span ∈ spans) {r : LexRule κ} (hr : span.rule = some r) :
    ∃ rest, g.Matches r span.text rest := by
  induction h with
  | nil => cases hspan
  | alone _ _ ih =>
    rcases List.mem_cons.mp hspan with rfl | hspan
    · cases hr
    · exact ih hspan
  | @ruled r' _ rest _ hd _ ih =>
    rcases List.mem_cons.mp hspan with rfl | hspan
    · obtain rfl : r' = r := Option.some.inj hr
      exact ⟨rest, matches_of_decides hd⟩
    · exact ih hspan

/-- The text of a span without a token was matched by a rule without a kind. -/
theorem Cut.dropped_of_mem {s : List Char} {spans : List (Span κ)} (h : g.Cut s spans)
    {span : Span κ} (hspan : span ∈ spans) (hnone : g.tokenOf? span = none) :
    ∃ r rest, g.Matches r span.text rest ∧ r.kind = none := by
  rw [tokenOf?] at hnone
  cases hr : span.rule with
  | none =>
    rw [hr] at hnone
    cases hnone
  | some r =>
    rw [hr] at hnone
    obtain ⟨rest, hmatches⟩ := h.matches_of_mem hspan hr
    exact ⟨r, rest, hmatches, Option.map_eq_none_iff.mp hnone⟩

end Grammar

/-! ## Blanks and comments -/

def IsBlankRun (blanks : String) (m : List Char) : Prop := m ≠ [] ∧ ∀ c ∈ m, c ∈ blanks.toList

/-- From an opening to the end of a line at the latest. -/
def IsLineComment (opener : String) (m : List Char) : Prop :=
  ∃ body, m = opener.toList ++ body ∧ ∀ c ∈ body, c ≠ '\r' ∧ c ≠ '\n'

/-- From an opening to the first close behind it. -/
def IsBlockComment (m : List Char) : Prop :=
  ∃ body, m = "/*".toList ++ body ++ "*/".toList ∧ ¬"*/".toList <:+: body ++ ['*']

namespace Pattern

theorem eq_of_covers_char {d : Char} {u : List Char} (h : (char d).Covers u) : u = [d] := by
  cases h with
  | one hd => rw [eq_of_beq hd]

theorem mem_of_covers_plus_oneOf {blanks : String} {m : List Char}
    (h : (plus (oneOf blanks)).Covers m) : ∀ c ∈ m, c ∈ blanks.toList := by
  intro c hc
  simpa [plus, oneOf, avoids] using h.avoids_eq_false hc

theorem isLineComment_of_covers {opener : String} {p : Pattern} {m : List Char}
    (hp : ∀ u, p.Covers u → u = opener.toList)
    (h : (seq p (many (noneOf "\r\n"))).Covers m) : IsLineComment opener m := by
  cases h with
  | @seq _ _ u body hu hbody =>
    refine ⟨body, by rw [hp u hu], ?_⟩
    intro c hc
    simpa [noneOf, avoids] using hbody.avoids_eq_false hc

end Pattern

namespace CFamily

open Pattern

theorem exists_of_covers_directive {m : List Char} (h : directive.Covers m) :
    ∃ d ∈ directives, m = '#' :: d.toList := by
  cases h with
  | seq hsign hname =>
    obtain ⟨d, hd, rfl⟩ := covers_choice.mp hname
    exact ⟨d, hd, by rw [eq_of_covers_char hsign, List.singleton_append]⟩

/-- The texts without a token in the C family. -/
def IsDiscarded (m : List Char) : Prop :=
  IsBlankRun " \t\x0c\x0b" m ∨ IsLineComment "//" m ∨ IsBlockComment m

/-- In front of the first close of a comment stands a text without one, not even with the
star of the close behind it. -/
theorem exists_body_of_behindClose {u t : List Char} (h : behindClose u = some t) :
    ∃ body, u = body ++ "*/".toList ++ t ∧ ¬"*/".toList <:+: body ++ ['*'] := by
  induction u with
  | nil => cases h
  | cons c u ih =>
    rw [behindClose] at h
    by_cases hc : "*/".toList <+: c :: u
    · rw [if_pos hc] at h
      obtain ⟨v, hv⟩ := hc
      obtain ⟨rfl, rfl⟩ : '*' = c ∧ '/' :: v = u := List.cons.inj hv
      obtain rfl : v = t := Option.some.inj h
      exact ⟨[], rfl, by decide⟩
    · rw [if_neg hc] at h
      obtain ⟨body, rfl, hbody⟩ := ih h
      refine ⟨c :: body, rfl, ?_⟩
      rw [List.cons_append, List.infix_cons_iff]
      rintro (hpre | hin)
      · apply hc
        have hfront : c :: (body ++ ['*']) <+: c :: (body ++ "*/".toList ++ t) := by
          rw [List.cons_prefix_cons]
          exact ⟨rfl, '/' :: t, by simp⟩
        exact hpre.trans hfront
      · exact hbody hin

theorem isBlockComment_of_matches {m rest : List Char}
    (h : grammar.Matches (.dropped blockComment) m rest) : IsBlockComment m := by
  have hleft : blockCommentRule.rest? (.of (m ++ rest)) = some (.of rest) := h.left
  rw [rest?_blockCommentRule] at hleft
  by_cases hopen : "/*".toList <+: m ++ rest
  · rw [if_pos hopen, Option.map_eq_some_iff] at hleft
    obtain ⟨t, ht, htr⟩ := hleft
    obtain rfl : t = rest := congrArg Rest.chars htr
    obtain ⟨body, hbody, hclose⟩ := exists_body_of_behindClose ht
    obtain ⟨u, hu⟩ := hopen
    refine ⟨body, ?_, hclose⟩
    have hdrop : u = (m ++ t).drop 2 := by rw [← hu]; rfl
    rw [hbody] at hdrop
    rw [hdrop, ← List.append_assoc, List.append_cancel_right_eq] at hu
    rw [← hu, List.append_assoc]
  · rw [if_neg hopen] at hleft
    cases hleft

theorem kind_isSome {r : LexRule Kind} (hr : r ∈ stringRule :: plainRules) :
    r.kind.isSome = true := by
  have hall : ((stringRule :: plainRules).all fun r => r.kind.isSome) = true := by
    decide +kernel
  exact List.all_eq_true.mp hall r hr

theorem isDiscarded_of_matches {r : LexRule Kind} {m rest : List Char}
    (h : grammar.Matches r m rest) (hnone : r.kind = none) : IsDiscarded m := by
  rcases mem_rules h.mem with hr | rfl | rfl | rfl
  · have hsome := kind_isSome hr
    rw [hnone] at hsome
    cases hsome
  · exact .inl ⟨h.ne_nil, mem_of_covers_plus_oneOf h.covers⟩
  · exact .inr (.inl (isLineComment_of_covers (fun u hu => covers_lit.mp hu) h.covers))
  · exact .inr (.inr (isBlockComment_of_matches h))

end CFamily

namespace Python

open Pattern

/-- The texts without a token in Python. -/
def IsDiscarded (m : List Char) : Prop :=
  IsBlankRun " \t\r\n\x0c\x0b" m ∨ IsLineComment "#" m

theorem kind_isSome {r : LexRule Kind} (hr : r ∈ stringRule :: plainRules) :
    r.kind.isSome = true := by
  have hall : ((stringRule :: plainRules).all fun r => r.kind.isSome) = true := by
    decide +kernel
  exact List.all_eq_true.mp hall r hr

theorem isDiscarded_of_matches {r : LexRule Kind} {m rest : List Char}
    (h : grammar.Matches r m rest) (hnone : r.kind = none) : IsDiscarded m := by
  rcases mem_rules h.mem with hr | rfl | rfl
  · have hsome := kind_isSome hr
    rw [hnone] at hsome
    cases hsome
  · exact .inl ⟨h.ne_nil, mem_of_covers_plus_oneOf h.covers⟩
  · exact .inr (isLineComment_of_covers (fun u hu => eq_of_covers_char hu) h.covers)

end Python

end ConceptInventory
