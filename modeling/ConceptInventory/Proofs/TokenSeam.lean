import ConceptInventory.Proofs.DroppedText
import Mathlib.Data.List.Infix
import Mathlib.Data.List.TakeWhile

/-!
# Tokens at a seam

What a text put behind another does to the tokens of the first. At a mark of the
first text nothing changes if every rule leaves what it left before, with the second
text behind it. So if at every mark either that holds or the whole rest has no
tokens of its own, the tokens of the two texts follow one another. Gaps at the front
of a text have no tokens, and neither have gaps behind it: the only rules that take
anything of them drop what they match.
-/
namespace ConceptInventory.Grammar

variable {κ : Type} {g : Grammar κ}

/-! ## Tokens of a list of characters -/

def tokensOf (g : Grammar κ) (s : List Char) : List (Token κ) := (g.spans s).filterMap g.tokenOf?

theorem tokenize_eq_tokensOf (g : Grammar κ) (text : String) :
    g.tokenize text = g.tokensOf text.toList := rfl

theorem tokensOf_nil : g.tokensOf [] = [] := rfl

theorem tokensOf_of_decides_none {c : Char} {rest : List Char}
    (h : Decides g.rules (c :: rest) none) :
    g.tokensOf (c :: rest) = ⟨g.unrecognized, some (String.ofList [c])⟩ :: g.tokensOf rest := by
  rw [tokensOf, spans_eq_of_cut (.alone h (g.cut_spans rest))]
  rfl

theorem tokensOf_of_decides_some {r : LexRule κ} {m rest : List Char}
    (h : Decides g.rules (m ++ rest) (some (r, .of rest))) :
    g.tokensOf (m ++ rest) = (g.tokenOf? ⟨m, some r⟩).toList ++ g.tokensOf rest := by
  rw [tokensOf, spans_eq_of_cut (.ruled h (g.cut_spans rest)), List.filterMap_cons]
  cases g.tokenOf? ⟨m, some r⟩ <;> rfl

/-- A rule without a kind leaves no token. -/
theorem tokensOf_of_dropped {r : LexRule κ} {m rest : List Char} (hr : r.kind = none)
    (h : Decides g.rules (m ++ rest) (some (r, .of rest))) :
    g.tokensOf (m ++ rest) = g.tokensOf rest := by
  have hnone : g.tokenOf? ⟨m, some r⟩ = none := by simp [tokenOf?, hr]
  rw [tokensOf_of_decides_some h, hnone]
  rfl

/-! ## The seam -/

/-- The tokens of two texts follow one another. The induction is on the cut of the first
text; where every rule leaves the same as before, its first span stays as it is. -/
theorem Cut.tokensOf_append {s w : List Char} {spans : List (Span κ)} (h : g.Cut s spans)
    (hseam : ∀ u after, after <:+ spans → g.Cut u after → u ≠ [] →
      (∀ r ∈ g.rules, r.left (u ++ w) = r.left u ++ w)
        ∨ g.tokensOf (u ++ w) = g.tokensOf u ++ g.tokensOf w) :
    g.tokensOf (s ++ w) = g.tokensOf s ++ g.tokensOf w := by
  induction h with
  | nil => rfl
  | @alone c rest spans hd hr ih =>
    have hrest := ih fun u after hafter => hseam u after (hafter.trans (List.suffix_cons _ _))
    rcases hseam _ _ (List.suffix_refl _) (.alone hd hr) (List.cons_ne_nil c rest) with hw | hw
    · have hd' : Decides g.rules (c :: (rest ++ w)) none := decides_append hw hd
      rw [List.cons_append, tokensOf_of_decides_none hd, tokensOf_of_decides_none hd', hrest,
        List.cons_append]
    · exact hw
  | @ruled r m rest spans hd hr ih =>
    have hrest := ih fun u after hafter => hseam u after (hafter.trans (List.suffix_cons _ _))
    have hne : m ++ rest ≠ [] := by
      obtain ⟨_, _, _, _, hlt, _⟩ := hd
      exact List.ne_nil_of_length_pos (Nat.zero_lt_of_lt hlt)
    rcases hseam _ _ (List.suffix_refl _) (.ruled hd hr) hne with hw | hw
    · have hd' : Decides g.rules (m ++ (rest ++ w)) (some (r, .of (rest ++ w))) := by
        rw [← List.append_assoc]
        exact decides_append hw hd
      rw [List.append_assoc, tokensOf_of_decides_some hd, tokensOf_of_decides_some hd', hrest,
        List.append_assoc]
    · exact hw

/-! ## Gaps in front -/

variable {gap : Char → Bool}

/-- At a gap only the rule for gaps reaches anywhere. -/
theorem Skips.decides_gap (h : g.Skips gap) {c : Char} (hc : gap c = true) (s : List Char) :
    Decides g.rules (c :: s) (some (gapRule gap, .of (s.dropWhile gap))) := by
  obtain ⟨before, after, hrules, hothers⟩ := h
  rw [hrules]
  exact decides_run rfl rfl hc (fun q hq => hothers q hq c hc) s

theorem Skips.tokensOf_dropWhile (h : g.Skips gap) (s : List Char) :
    g.tokensOf (s.dropWhile gap) = g.tokensOf s := by
  cases s with
  | nil => rfl
  | cons c s =>
    by_cases hc : gap c = true
    · have hd := h.decides_gap hc s
      have hs : c :: s = c :: s.takeWhile gap ++ s.dropWhile gap := by
        rw [List.cons_append, List.takeWhile_append_dropWhile]
      rw [hs] at hd
      rw [List.dropWhile_cons_of_pos hc, ← tokensOf_of_dropped rfl hd, ← hs]
    · rw [List.dropWhile_cons_of_neg hc]

/-- Gaps in front of a text have no tokens. -/
theorem Skips.tokensOf_append (h : g.Skips gap) {u : List Char} (hu : ∀ c ∈ u, gap c = true)
    (s : List Char) : g.tokensOf (u ++ s) = g.tokensOf s := by
  rw [← h.tokensOf_dropWhile (u ++ s), ← h.tokensOf_dropWhile s, List.dropWhile_append_of_pos hu]

theorem Skips.tokensOf_gap (h : g.Skips gap) {u : List Char} (hu : ∀ c ∈ u, gap c = true) :
    g.tokensOf u = [] := by
  have hnil := h.tokensOf_append hu []
  rwa [List.append_nil] at hnil

/-- A run of gaps that ends in front of the seam ends there with a text behind it. -/
theorem left_gapRule_append {s : List Char} (hs : ¬∀ c ∈ s, gap c = true) (w : List Char) :
    (gapRule gap : LexRule κ).left (s ++ w) = (gapRule gap : LexRule κ).left s ++ w := by
  have hne : s.dropWhile gap ≠ [] := fun hnil => hs (List.dropWhile_eq_nil_iff.mp hnil)
  rw [LexRule.left_run rfl rfl, LexRule.left_run rfl rfl, List.dropWhile_append,
    if_neg (by simpa using hne)]

/-! ## Gaps behind -/

/-- Some rules may take gaps at the end of what they match, and would match without them as
well; no other rule takes any, and no rule with a kind matches a text that one of these
matches. -/
structure Trims (g : Grammar κ) (gap : Char → Bool) (fillers : List (LexRule κ)) : Prop where
  skips : g.Skips gap
  no_word : ∀ c, gap c = true → isWordCharacter c = false
  steady : ∀ r ∈ g.rules, r.pattern.steady = true
  mem : ∀ r ∈ fillers, r ∈ g.rules
  whole : ∀ r ∈ fillers, r.wholeWord = false ∧ r.pattern.LongestFirst
  sheds : ∀ r ∈ fillers, ∀ s n, s ≠ [] → (∀ c ∈ n, gap c = true) →
    r.pattern.Covers (s ++ n) → r.pattern.Covers s
  others : ∀ r ∈ g.rules, r ∈ fillers ∨ ∀ c, gap c = true → r.pattern.ends c = false
  apart : ∀ r ∈ fillers, ∀ q ∈ g.rules, q.kind ≠ none → ∀ s, r.pattern.Covers s →
    ¬q.pattern.Covers s

namespace Trims

variable {fillers : List (LexRule κ)} {s w : List Char}

theorem covers_of_append (h : g.Trims gap fillers) {q : LexRule κ} (hq : q ∈ g.rules)
    {n : List Char} (hs : s ≠ []) (hn : ∀ c ∈ n, gap c = true)
    (hcovers : q.pattern.Covers (s ++ n)) : q.pattern.Covers s := by
  rcases h.others q hq with hfiller | hends
  · exact h.sheds q hfiller s n hs hn hcovers
  · have hnil : n = [] := Pattern.eq_nil_of_covers_append (fun c hc => hends c (hn c hc)) hcovers
    rwa [hnil, List.append_nil] at hcovers

/-- Where a rule that may take gaps covers all of a text, the text has no tokens, also
with gaps behind it: whatever is matched goes at least as far and has no kind. -/
theorem tokensOf_of_filler (h : g.Trims gap fillers) (hw : ∀ c ∈ w, gap c = true) (hs : s ≠ [])
    {r : LexRule κ} (hr : r ∈ fillers) (hcovers : r.pattern.Covers s) :
    g.tokensOf (s ++ w) = [] := by
  have hmem := h.mem r hr
  obtain ⟨hword, hlongest⟩ := h.whole r hr
  have hreach : s.length ≤ r.reach (s ++ w) :=
    LexRule.le_reach_of_covers hlongest hcovers (by simp [LexRule.endsAt, hword])
  have hpos := List.length_pos_iff.mpr hs
  have hcut := g.cut_spans (s ++ w)
  generalize g.spans (s ++ w) = spans at hcut
  generalize hu : s ++ w = u at hcut hreach
  cases hcut with
  | nil =>
    rw [LexRule.reach, List.length_nil] at hreach
    omega
  | alone hd _ =>
    have hzero := hd r hmem
    omega
  | @ruled q m rest _ hd _ =>
    have hmatch := matches_of_decides hd
    have hle := hd.reach_le hmem
    rw [hd.reach_eq] at hle
    obtain ⟨n, rfl⟩ : s <+: m :=
      List.prefix_of_prefix_length_le ⟨w, hu⟩ (List.prefix_append m rest) (by omega)
    rw [List.append_assoc, List.append_cancel_left_eq] at hu
    subst hu
    have hn : ∀ c ∈ n, gap c = true := fun c hc => hw c (List.mem_append_left _ hc)
    have hrest : ∀ c ∈ rest, gap c = true := fun c hc => hw c (List.mem_append_right _ hc)
    have hkind : q.kind = none := by
      by_contra hkind
      have hq : q.pattern.Covers s := h.covers_of_append hmatch.mem hs hn hmatch.covers
      exact h.apart r hr q hmatch.mem hkind s hcovers hq
    rw [tokensOf_of_dropped hkind hd, h.skips.tokensOf_gap hrest]

/-- Where none of these rules covers all of a text, every rule leaves what it left. -/
theorem left_append (h : g.Trims gap fillers) (hw : ∀ c ∈ w, gap c = true) (hs : s ≠ [])
    (hfiller : ∀ r ∈ fillers, ¬r.pattern.Covers s) {r : LexRule κ} (hr : r ∈ g.rules) :
    r.left (s ++ w) = r.left s ++ w := by
  apply LexRule.left_append_of_staysIn (h.steady r hr)
  · apply Pattern.staysIn_of_covers_append
    intro n hn hcovers
    have hgap : ∀ c ∈ n, gap c = true := fun c hc => hw c (hn.subset hc)
    rcases h.others r hr with hmem | hends
    · exact (hfiller r hmem (h.sheds r hmem s n hs hgap hcovers)).elim
    · exact Pattern.eq_nil_of_covers_append (fun c hc => hends c (hgap c hc)) hcovers
  · cases w with
    | nil => rfl
    | cons c w => simp [atWordEnd, h.no_word c (hw c List.mem_cons_self)]

/-- Gaps behind a text have no tokens and change none. -/
theorem tokensOf_append (h : g.Trims gap fillers) (hw : ∀ c ∈ w, gap c = true) (s : List Char) :
    g.tokensOf (s ++ w) = g.tokensOf s := by
  have hgap : g.tokensOf w = [] := h.skips.tokensOf_gap hw
  have hboth : g.tokensOf (s ++ w) = g.tokensOf s ++ g.tokensOf w := by
    refine (g.cut_spans s).tokensOf_append ?_
    intro u _ _ _ hu
    by_cases hfiller : ∃ r ∈ fillers, r.pattern.Covers u
    · obtain ⟨r, hr, hcovers⟩ := hfiller
      have hnil := h.tokensOf_of_filler (w := []) (by simp) hu hr hcovers
      rw [List.append_nil] at hnil
      exact .inr (by rw [h.tokensOf_of_filler hw hu hr hcovers, hnil, hgap]; rfl)
    · have hnone : ∀ r ∈ fillers, ¬r.pattern.Covers u := fun r hr hcovers =>
        hfiller ⟨r, hr, hcovers⟩
      exact .inl fun r hr => h.left_append hw hu hnone hr
  rw [hboth, hgap, List.append_nil]

end Trims

end ConceptInventory.Grammar
