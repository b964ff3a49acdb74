import ConceptInventory.Proofs.TokenSeam

/-!
# Surrounding gaps

Gaps around a text change none of its tokens, in either grammar. Of the rules only
those for gaps and for comments to the end of a line take gaps at the end of what
they match. These two drop their match, and what they match they match without the
gaps at its end as well.
-/
namespace ConceptInventory

variable {κ : Type}

/-! ## Runs and comments -/

namespace Pattern

theorem covers_plus_one {ok : Char → Bool} {m : List Char} :
    (plus (one ok)).Covers m ↔ m ≠ [] ∧ ∀ c ∈ m, ok c = true := by
  constructor
  · intro h
    obtain ⟨c, rest, hm, _⟩ := h.exists_cons (by simp [plus, nullable])
    refine ⟨by simp [hm], fun d hd => ?_⟩
    simpa [plus, avoids] using h.avoids_eq_false hd
  · rintro ⟨hne, hall⟩
    obtain ⟨c, rest, rfl⟩ := List.exists_cons_of_ne_nil hne
    have hrest : rest.all ok = true :=
      List.all_eq_true.mpr fun d hd => hall d (List.mem_cons_of_mem c hd)
    exact .seq (s := [c]) (.one (hall c List.mem_cons_self)) (covers_many_one hrest)

theorem covers_lineComment {opener : String} {p : Pattern} {m : List Char}
    (hp : ∀ u, p.Covers u ↔ u = opener.toList) :
    (seq p (many (noneOf "\r\n"))).Covers m ↔ IsLineComment opener m := by
  constructor
  · exact isLineComment_of_covers fun u hu => (hp u).mp hu
  · rintro ⟨body, rfl, hbody⟩
    refine .seq ((hp _).mpr rfl) (covers_many_one (List.all_eq_true.mpr fun c hc => ?_))
    simpa using hbody c hc

end Pattern

/-- The front of a comment up to characters its opening does not hold is a comment. -/
theorem IsLineComment.of_append {opener : String} {s n : List Char}
    (h : IsLineComment opener (s ++ n)) (hn : ∀ c ∈ n, c ∉ opener.toList) :
    IsLineComment opener s := by
  obtain ⟨body, hbody, hends⟩ := h
  rcases List.append_eq_append_iff.mp hbody with ⟨m, hopener, rfl⟩ | ⟨m, rfl, rfl⟩
  · cases m with
    | nil => exact ⟨[], by simpa using hopener.symm, by simp⟩
    | cons c m => exact (hn c (by simp) (by simp [hopener])).elim
  · exact ⟨m, rfl, fun c hc => hends c (List.mem_append_left _ hc)⟩

/-! ## The rules that take gaps at the end -/

/-- The rule matches comments to the end of a line. -/
structure LexRule.TakesLines (r : LexRule κ) (opener : String) : Prop where
  wholeWord : r.wholeWord = false
  longestFirst : r.pattern.LongestFirst
  covers : ∀ m, r.pattern.Covers m ↔ IsLineComment opener m

namespace Grammar

variable {g : Grammar κ} {x : Char} {gap : Char → Bool} {plain : List (LexRule κ)}
  {string comment : LexRule κ} {openers : List String} {opener : String}

/-- A rule with a kind matches neither gaps nor comments. -/
theorem Separable.not_covers (h : g.Separable x gap plain string openers)
    (hline : comment.TakesLines opener) (hopener : opener ∈ openers) {q : LexRule κ}
    (hq : q ∈ g.rules) (hkind : q.kind ≠ none) {r : LexRule κ} (hr : r ∈ [gapRule gap, comment])
    {s : List Char} (hs : r.pattern.Covers s) : ¬q.pattern.Covers s := by
  have hmem : q ∈ string :: plain := by
    rcases h.rules q hq with hq | rfl | ⟨hnone, _⟩
    · exact hq
    · exact (hkind rfl).elim
    · exact (hkind hnone).elim
  simp only [List.mem_cons, List.not_mem_nil, or_false] at hr
  rcases hr with rfl | rfl
  · obtain ⟨hne, hgap⟩ := Pattern.covers_plus_one.mp hs
    obtain ⟨c, rest, rfl⟩ := List.exists_cons_of_ne_nil hne
    exact Pattern.not_covers_cons (h.no_gap q hmem c (hgap c List.mem_cons_self)) rest
  · obtain ⟨body, rfl, _⟩ := (hline.covers s).mp hs
    exact fun hcovers => h.no_comment q hmem _ hcovers opener hopener (List.prefix_append _ _)

/-- Of the rules of such a grammar only that for gaps and one for comments to the end of a
line may take gaps at the end. -/
theorem Separable.trims (h : g.Separable x gap plain string openers) (hskips : g.Skips gap)
    (hword : ∀ c, gap c = true → isWordCharacter c = false)
    (hsteady : ∀ r ∈ g.rules, r.pattern.steady = true) (hmem : comment ∈ g.rules)
    (hline : comment.TakesLines opener) (hopener : opener ∈ openers)
    (hgapless : ∀ c, gap c = true → c ∉ opener.toList)
    (hothers : ∀ r ∈ g.rules, r ∈ [gapRule gap, comment]
      ∨ ∀ c, gap c = true → r.pattern.ends c = false) :
    g.Trims gap [gapRule gap, comment] where
  skips := hskips
  no_word := hword
  steady := hsteady
  mem r hr := by
    obtain ⟨before, after, hrules, _⟩ := hskips
    simp only [List.mem_cons, List.not_mem_nil, or_false] at hr
    rcases hr with rfl | rfl
    · simp [hrules]
    · exact hmem
  whole r hr := by
    simp only [List.mem_cons, List.not_mem_nil, or_false] at hr
    rcases hr with rfl | rfl
    · exact ⟨rfl, (Pattern.longestFirst_many_one gap).one_seq gap⟩
    · exact ⟨hline.wholeWord, hline.longestFirst⟩
  sheds r hr s n hs hn hcovers := by
    simp only [List.mem_cons, List.not_mem_nil, or_false] at hr
    rcases hr with rfl | rfl
    · obtain ⟨_, hall⟩ := Pattern.covers_plus_one.mp hcovers
      exact Pattern.covers_plus_one.mpr ⟨hs, fun c hc => hall c (List.mem_append_left _ hc)⟩
    · have hcomment := (hline.covers _).mp hcovers
      exact (hline.covers s).mpr (hcomment.of_append fun c hc => hgapless c (hn c hc))
  others := hothers
  apart r hr q hq hkind s hs := h.not_covers hline hopener hq hkind hr hs

end Grammar

/-! ## The two grammars -/

namespace CFamily

open Pattern

def lineCommentRule : LexRule Kind := .dropped lineComment

theorem takesLines : lineCommentRule.TakesLines "//" where
  wholeWord := rfl
  longestFirst := by
    have hcoarse : lineComment.Coarse :=
      ⟨coarse_lit (by decide), (isCoarse_contains (by decide)).not⟩
    exact longestFirst_of_takesLongest hcoarse (by decide +kernel)
  covers m := covers_lineComment fun u => covers_lit

theorem ends_gap {r : LexRule Kind} (hr : r ∈ .dropped blockComment :: stringRule :: plainRules)
    {c : Char} (hc : isGap c = true) : r.pattern.ends c = false := by
  have hall : ((.dropped blockComment :: stringRule :: plainRules).all fun r =>
      " \t\x0c\x0b".toList.all fun c => !r.pattern.ends c) = true := by decide +kernel
  have hmem : c ∈ " \t\x0c\x0b".toList := List.contains_iff_mem.mp hc
  simpa using List.all_eq_true.mp (List.all_eq_true.mp hall r hr) c hmem

theorem trims : grammar.Trims isGap [Grammar.gapRule isGap, lineCommentRule] := by
  apply separable.trims skips
  · intro c hc
    rcases isGap_iff.mp hc with rfl | rfl | rfl | rfl <;> decide
  · have hall : (grammar.rules.all fun r => r.pattern.steady) = true := by decide +kernel
    exact List.all_eq_true.mp hall
  · simp [rules_eq, frontRules, lineCommentRule]
  · exact takesLines
  · decide
  · intro c hc
    rcases isGap_iff.mp hc with rfl | rfl | rfl | rfl <;> decide
  · intro r hr
    rcases mem_rules hr with hr | rfl | rfl | rfl
    · exact .inr fun c hc => ends_gap (List.mem_cons_of_mem _ hr) hc
    · exact .inl (by simp)
    · exact .inl (by simp [lineCommentRule])
    · exact .inr fun c hc => ends_gap List.mem_cons_self hc

end CFamily

namespace Python

open Pattern

def commentRule : LexRule Kind := .dropped comment

theorem takesLines : commentRule.TakesLines "#" where
  wholeWord := rfl
  longestFirst := by
    have hcoarse : comment.Coarse := ⟨isCoarse_beq (by decide), (isCoarse_contains (by decide)).not⟩
    exact longestFirst_of_takesLongest hcoarse (by decide +kernel)
  covers m := by
    apply covers_lineComment
    intro u
    constructor
    · exact eq_of_covers_char
    · rintro rfl
      exact .one rfl

theorem ends_gap {r : LexRule Kind} (hr : r ∈ stringRule :: plainRules) {c : Char}
    (hc : isGap c = true) : r.pattern.ends c = false := by
  have hall : ((stringRule :: plainRules).all fun r =>
      " \t\r\n\x0c\x0b".toList.all fun c => !r.pattern.ends c) = true := by decide +kernel
  have hmem : c ∈ " \t\r\n\x0c\x0b".toList := List.contains_iff_mem.mp hc
  simpa using List.all_eq_true.mp (List.all_eq_true.mp hall r hr) c hmem

theorem trims : grammar.Trims isGap [Grammar.gapRule isGap, commentRule] := by
  apply separable.trims skips
  · intro c hc
    rcases isGap_iff.mp hc with rfl | rfl | rfl | rfl | rfl | rfl <;> decide
  · have hall : (grammar.rules.all fun r => r.pattern.steady) = true := by decide +kernel
    exact List.all_eq_true.mp hall
  · simp [rules_eq, frontRules, commentRule]
  · exact takesLines
  · decide
  · intro c hc
    rcases isGap_iff.mp hc with rfl | rfl | rfl | rfl | rfl | rfl <;> decide
  · intro r hr
    rcases mem_rules hr with hr | rfl | rfl
    · exact .inr fun c hc => ends_gap hr hc
    · exact .inl (by simp)
    · exact .inl (by simp [commentRule])

end Python

theorem Grammar.Trims.tokenize_surrounded {g : Grammar κ} {gap : Char → Bool}
    {fillers : List (LexRule κ)} (h : g.Trims gap fillers) {u v : String}
    (hu : ∀ c ∈ u.toList, gap c = true) (hv : ∀ c ∈ v.toList, gap c = true) (a : String) :
    g.tokenize (u ++ a ++ v) = g.tokenize a := by
  rw [tokenize_eq_tokensOf, String.toList_append, String.toList_append, h.tokensOf_append hv,
    h.skips.tokensOf_append hu, ← tokenize_eq_tokensOf]

/-- Gaps in front of a text and behind it have no tokens and change none of the text, even
where it ends in the middle of a string, a comment or a keyword of several words. -/
theorem tokenize_between_gaps :
    (∀ u a v : String, (∀ c ∈ u.toList, CFamily.isGap c = true) →
      (∀ c ∈ v.toList, CFamily.isGap c = true) →
      CFamily.grammar.tokenize (u ++ a ++ v) = CFamily.grammar.tokenize a)
    ∧ ∀ u a v : String, (∀ c ∈ u.toList, Python.isGap c = true) →
      (∀ c ∈ v.toList, Python.isGap c = true) →
      Python.grammar.tokenize (u ++ a ++ v) = Python.grammar.tokenize a :=
  ⟨fun _ a _ hu hv => CFamily.trims.tokenize_surrounded hu hv a,
    fun _ a _ hu hv => Python.trims.tokenize_surrounded hu hv a⟩

/-- A backslash in a string that is not closed takes the blank behind it, `is` might have
become a longer keyword, and a comment grows by what comes before the end of its line. -/
theorem tokenize_between_gaps_unclosed :
    (∀ c ∈ "\x0b ".toList, CFamily.isGap c = true)
      ∧ (∀ c ∈ " \t".toList, CFamily.isGap c = true)
      ∧ (∀ c ∈ "\r\n".toList, Python.isGap c = true)
      ∧ (∀ c ∈ " \n\t".toList, Python.isGap c = true)
      ∧ CFamily.grammar.tokenize ("\x0b " ++ "s = \"else\\" ++ " \t")
        = CFamily.grammar.tokenize "s = \"else\\"
      ∧ Python.grammar.tokenize ("\r\n" ++ "x is" ++ " \n\t")
        = Python.grammar.tokenize "x is"
      ∧ Python.grammar.tokenize ("\r\n" ++ "x # is" ++ " \n\t")
        = Python.grammar.tokenize "x # is" := by
  have hfront : ∀ c ∈ "\x0b ".toList, CFamily.isGap c = true :=
    List.all_eq_true.mp (by decide)
  have hback : ∀ c ∈ " \t".toList, CFamily.isGap c = true :=
    List.all_eq_true.mp (by decide)
  have hbreak : ∀ c ∈ "\r\n".toList, Python.isGap c = true :=
    List.all_eq_true.mp (by decide)
  have hend : ∀ c ∈ " \n\t".toList, Python.isGap c = true :=
    List.all_eq_true.mp (by decide)
  exact ⟨hfront, hback, hbreak, hend, tokenize_between_gaps.1 _ _ _ hfront hback,
    tokenize_between_gaps.2 _ _ _ hbreak hend, tokenize_between_gaps.2 _ _ _ hbreak hend⟩

end ConceptInventory
