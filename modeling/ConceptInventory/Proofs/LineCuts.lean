import ConceptInventory.Proofs.LineBreaks
import Mathlib.Data.List.Infix
import Mathlib.Data.List.TakeWhile

/-!
# Cuts of joined lines

Where two texts with a line feed between them are cut. In front of the line feed
every rule leaves the same as in the first text alone, unless that text is all
breaks, which run together with the line feed, or a rule has opened a comment
there that the text does not close. What stands behind the breaks is cut as in
the second text alone. So the three cuts share their spans up to one line break.
-/
namespace ConceptInventory.CFamily

def lineBreakSpan (breaks : List Char) : Span Kind := ⟨breaks, some lineBreakRule⟩

/-! ## Decisions -/

/-- At a break only the rule for breaks reaches anywhere. -/
theorem decides_lineBreak {c : Char} (hc : isBreak c = true) (s : List Char) :
    Decides grammar.rules (c :: s) (some (lineBreakRule, .of (s.dropWhile isBreak))) := by
  rw [grammar_rules]
  exact decides_run rfl rfl hc (fun q hq => starts_break (by simpa using hq) hc) s

/-- In front of a line feed every rule leaves what it leaves of the text alone,
if the text is not all breaks and does not leave a comment open. -/
theorem left_append_lineFeed {s : List Char} (hs : ¬∀ c ∈ s, isBreak c = true)
    (hclosed : "/*".toList <+: s → "*/".toList <:+: s.drop 2) (b : List Char)
    {r : LexRule Kind} (hr : r ∈ grammar.rules) :
    r.left (s ++ '\n' :: b) = r.left s ++ '\n' :: b := by
  rcases stopsAt_of_mem hr with rfl | rfl | hstop
  · exact left_blockCommentRule_append hclosed b
  · rw [left_lineBreakRule, left_lineBreakRule]
    have hne : s.dropWhile isBreak ≠ [] := by
      intro hnil
      exact hs (List.dropWhile_eq_nil_iff.mp hnil)
    rw [List.dropWhile_append, if_neg (by simpa using hne)]
  · exact LexRule.left_append hstop (by decide +kernel) s b

/-! ## Cuts -/

/-- Breaks at the front of a text are one span. -/
theorem cut_breaks {c : Char} (hc : isBreak c = true) {s : List Char} {spans : List (Span Kind)}
    (h : grammar.Cut (s.dropWhile isBreak) spans) :
    grammar.Cut (c :: s) (lineBreakSpan (c :: s.takeWhile isBreak) :: spans) := by
  have hs : c :: s = c :: s.takeWhile isBreak ++ s.dropWhile isBreak := by
    rw [List.cons_append, List.takeWhile_append_dropWhile]
  have hd := decides_lineBreak hc s
  rw [hs] at hd
  have hcut := Grammar.Cut.ruled hd h
  rwa [← hs] at hcut

/-- Without the breaks at its front a text has the other spans. -/
theorem cut_dropWhile {s : List Char} {spans : List (Span Kind)} (h : grammar.Cut s spans) :
    ∃ behind, grammar.Cut (s.dropWhile isBreak) behind ∧
      (spans = behind ∨ ∃ breaks, spans = lineBreakSpan breaks :: behind) := by
  cases s with
  | nil => exact ⟨spans, h, .inl rfl⟩
  | cons c s =>
    by_cases hc : isBreak c = true
    · have hcut := grammar.cut_spans (s.dropWhile isBreak)
      refine ⟨_, ?_, .inr ⟨_, h.unique (cut_breaks hc hcut)⟩⟩
      rwa [List.dropWhile_cons_of_pos hc]
    · refine ⟨spans, ?_, .inl rfl⟩
      rwa [List.dropWhile_cons_of_neg hc]

/-- The third list joins the first two by one line break; a line break at the end
of the first or at the start of the second has run together with it. -/
def Joined (xs ys zs : List (Span Kind)) : Prop :=
  ∃ before breaks behind, zs = before ++ lineBreakSpan breaks :: behind ∧
    (xs = before ∨ ∃ breaks, xs = before ++ [lineBreakSpan breaks]) ∧
    (ys = behind ∨ ∃ breaks, ys = lineBreakSpan breaks :: behind)

theorem Joined.cons {xs ys zs : List (Span Kind)} (h : Joined xs ys zs) (span : Span Kind) :
    Joined (span :: xs) ys (span :: zs) := by
  obtain ⟨before, breaks, behind, rfl, hxs, hys⟩ := h
  refine ⟨span :: before, breaks, behind, rfl, ?_, hys⟩
  rcases hxs with rfl | ⟨breaks, rfl⟩
  · exact .inl rfl
  · exact .inr ⟨breaks, rfl⟩

/-- Breaks only, and the line feed behind them, are one line break. -/
theorem joined_of_breaks {a b : List Char} {xs ys : List (Span Kind)}
    (hbreaks : ∀ c ∈ a, isBreak c = true) (ha : grammar.Cut a xs) (hb : grammar.Cut b ys) :
    ∃ zs, grammar.Cut (a ++ '\n' :: b) zs ∧ Joined xs ys zs := by
  obtain ⟨behind, hbehind, hys⟩ := cut_dropWhile hb
  have hfeed : isBreak '\n' = true := (isBreak_iff _).mpr (.inr rfl)
  cases a with
  | nil =>
    obtain rfl : xs = [] := ha.unique .nil
    exact ⟨_, cut_breaks hfeed hbehind, [], _, behind, rfl, .inl rfl, hys⟩
  | cons c a =>
    have hc := hbreaks c List.mem_cons_self
    have hall : ∀ d ∈ a, isBreak d = true := fun d hd => hbreaks d (List.mem_cons_of_mem c hd)
    have halone : grammar.Cut (a.dropWhile isBreak) [] := by
      rw [List.dropWhile_eq_nil_iff.mpr hall]
      exact .nil
    have hjoin : grammar.Cut ((a ++ '\n' :: b).dropWhile isBreak) behind := by
      rwa [List.dropWhile_append_of_pos hall, List.dropWhile_cons_of_pos hfeed]
    exact ⟨_, cut_breaks hc hjoin, [], _, behind, rfl,
      .inr ⟨_, ha.unique (cut_breaks hc halone)⟩, hys⟩

/-- Wherever a span starts with the sign that opens a comment, the spans hold the
sign that closes it, behind the opening one. -/
def ClosesComments (spans : List (Span Kind)) : Prop :=
  ∀ after, after <:+ spans → "/*".toList <+: after.flatMap Span.text →
    "*/".toList <:+: (after.flatMap Span.text).drop 2

instance (spans : List (Span Kind)) : Decidable (ClosesComments spans) :=
  decidable_of_iff (∀ after ∈ spans.tails, "/*".toList <+: after.flatMap Span.text →
    "*/".toList <:+: (after.flatMap Span.text).drop 2) (by simp [ClosesComments])

theorem ClosesComments.tail {span : Span Kind} {spans : List (Span Kind)}
    (h : ClosesComments (span :: spans)) : ClosesComments spans := by
  intro after hafter
  exact h after (hafter.trans (List.suffix_cons span spans))

theorem ClosesComments.here {s : List Char} {spans : List (Span Kind)}
    (h : ClosesComments spans) (hcut : grammar.Cut s spans) :
    "/*".toList <+: s → "*/".toList <:+: s.drop 2 := by
  have hwhole := h spans (List.suffix_refl spans)
  rwa [hcut.flatMap_text] at hwhole

/-- What decides in front of a line feed decides there in the text alone. -/
theorem decides_append_lineFeed {s : List Char} {spans : List (Span Kind)}
    (hcut : grammar.Cut s spans) (hclosed : ClosesComments spans)
    (hs : ¬∀ c ∈ s, isBreak c = true) (b : List Char) {d : Option (LexRule Kind × Rest)}
    (hd : Decides grammar.rules s d) : Decides grammar.rules (s ++ '\n' :: b)
      (d.map fun e => (e.1, .of (e.2.chars ++ '\n' :: b))) := by
  apply decides_append _ hd
  intro r hr
  exact left_append_lineFeed hs (hclosed.here hcut) b hr

/-- A cut of the joined text shares the spans of the two, by induction on the cut
of the first. As long as it has more than breaks to come, the line feed does not
change what decides; then the breaks run together with it. -/
theorem exists_joined {a b : List Char} {xs ys : List (Span Kind)} (ha : grammar.Cut a xs)
    (hclosed : ClosesComments xs) (hb : grammar.Cut b ys) :
    ∃ zs, grammar.Cut (a ++ '\n' :: b) zs ∧ Joined xs ys zs := by
  induction ha with
  | nil => exact joined_of_breaks (by simp) .nil hb
  | @alone c rest spans hd hr ih =>
    have hcut := Grammar.Cut.alone hd hr
    by_cases hbreaks : ∀ d ∈ c :: rest, isBreak d = true
    · exact joined_of_breaks hbreaks hcut hb
    · have hd' := decides_append_lineFeed hcut hclosed hbreaks b hd
      obtain ⟨zs, hzs, hjoined⟩ := ih hclosed.tail
      exact ⟨_, .alone hd' hzs, hjoined.cons _⟩
  | @ruled r text rest spans hd hr ih =>
    have hcut := Grammar.Cut.ruled hd hr
    by_cases hbreaks : ∀ d ∈ text ++ rest, isBreak d = true
    · exact joined_of_breaks hbreaks hcut hb
    · have hd' := decides_append_lineFeed hcut hclosed hbreaks b hd
      obtain ⟨zs, hzs, hjoined⟩ := ih hclosed.tail
      rw [List.append_assoc] at hd' ⊢
      exact ⟨_, .ruled hd' hzs, hjoined.cons _⟩

theorem joined_spans {a : List Char} (h : ClosesComments (grammar.spans a)) (b : List Char) :
    Joined (grammar.spans a) (grammar.spans b) (grammar.spans (a ++ '\n' :: b)) := by
  obtain ⟨zs, hzs, hjoined⟩ := exists_joined (grammar.cut_spans a) h (grammar.cut_spans b)
  rwa [Grammar.spans_eq_of_cut hzs]

end ConceptInventory.CFamily
