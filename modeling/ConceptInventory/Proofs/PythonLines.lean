import ConceptInventory.Proofs.TokenSeam

/-!
# Lines of Python

The tokens of two texts with line breaks between them are those of the first and those
of the second, if the first leaves no string open. Of the rules only those for strings
and for gaps go on over a line break. Gaps have no tokens. A string that is closed ends
where it ends, whatever stands behind, and where one is not closed its quote is a token
of its own.
-/
namespace ConceptInventory.Python

open Pattern

/-- No quote is left without its string. -/
def ClosesStrings (tokens : List (Token Kind)) : Prop :=
  ∀ t ∈ tokens, t.kind = .unrecognized → t.text ≠ some "\"" ∧ t.text ≠ some "'"

instance (tokens : List (Token Kind)) : Decidable (ClosesStrings tokens) :=
  List.decidableBAll _ tokens

/-! ## Rules at a line break -/

theorem stopsAt_break {r : LexRule Kind} (hr : r ∈ .dropped comment :: plainRules) {c : Char}
    (hc : c = '\r' ∨ c = '\n') : r.stopsAt c = true := by
  have hall : ((.dropped comment :: plainRules).all fun r =>
      r.stopsAt '\r' && r.stopsAt '\n') = true := by decide +kernel
  obtain ⟨hreturn, hfeed⟩ := Bool.and_eq_true_iff.mp (List.all_eq_true.mp hall r hr)
  rcases hc with rfl | rfl
  · exact hreturn
  · exact hfeed

/-- Only strings start with a quote. -/
theorem eq_stringRule_of_starts {r : LexRule Kind} (hr : r ∈ grammar.rules) {c : Char}
    (hc : string.starts c = true) (hstarts : r.pattern.starts c = true) : r = stringRule := by
  have hclosed : c ∈ closed := by
    rcases starts_string.mp hc with rfl | rfl <;> decide
  rcases mem_rules hr with hr | rfl | rfl
  · rcases List.mem_cons.mp hr with rfl | hr
    · rfl
    · rw [(plainRules_closed hr).2 c hclosed] at hstarts
      cases hstarts
  · rcases starts_string.mp hc with rfl | rfl <;> cases hstarts
  · rcases starts_string.mp hc with rfl | rfl <;> cases hstarts

/-! ## Quotes at a mark -/

/-- At a mark a quote starts a string or stands alone. -/
theorem covers_string_of_cut {c : Char} {rest : List Char} {spans : List (Span Kind)}
    (h : grammar.Cut (c :: rest) spans) (hc : string.starts c = true) :
    (∃ m, m <+: c :: rest ∧ string.Covers m) ∨ ⟨[c], none⟩ ∈ spans := by
  generalize hs : c :: rest = s at h
  cases h with
  | nil => cases hs
  | alone _ _ =>
    obtain ⟨rfl, rfl⟩ := List.cons.inj hs
    exact .inr List.mem_cons_self
  | @ruled r m behind _ hd _ =>
    have hmatch := Grammar.matches_of_decides hd
    have hstarts : r.pattern.starts c = true := by
      cases m with
      | nil => exact (hmatch.ne_nil rfl).elim
      | cons d m =>
        obtain ⟨rfl, _⟩ := List.cons.inj hs
        exact hmatch.covers.starts_of_cons rfl
    obtain rfl := eq_stringRule_of_starts hmatch.mem hc hstarts
    exact .inl ⟨m, List.prefix_append m behind, hmatch.covers⟩

/-- A quote that stands alone is a token. -/
theorem ClosesStrings.not_alone {spans : List (Span Kind)}
    (h : ClosesStrings (spans.filterMap grammar.tokenOf?)) {c : Char}
    (hc : string.starts c = true) : (⟨[c], none⟩ : Span Kind) ∉ spans := by
  intro hspan
  have htoken : ⟨.unrecognized, some (String.ofList [c])⟩ ∈ spans.filterMap grammar.tokenOf? :=
    List.mem_filterMap.mpr ⟨_, hspan, rfl⟩
  obtain ⟨hdouble, hsingle⟩ := h _ htoken rfl
  rcases starts_string.mp hc with rfl | rfl
  · exact hdouble rfl
  · exact hsingle rfl

/-- If no string is left open, a string that starts at a mark does not go on behind. -/
theorem staysIn_string_of_cut {s : List Char} {spans : List (Span Kind)}
    (h : grammar.Cut s spans) (hs : s ≠ [])
    (hclosed : ClosesStrings (spans.filterMap grammar.tokenOf?)) (w : List Char) :
    string.StaysIn s w := by
  obtain ⟨c, rest, rfl⟩ := List.exists_cons_of_ne_nil hs
  by_cases hc : string.starts c = true
  · rcases covers_string_of_cut h hc with ⟨m, hpre, hm⟩ | halone
    · exact separable.staysIn_string hm hpre
    · exact (hclosed.not_alone hc halone).elim
  · intro m hm hpre
    rcases hm.eq_nil_or_starts hpre with rfl | hstarts
    · exact List.nil_prefix
    · exact (hc hstarts).elim

/-! ## Texts in front of line breaks -/

/-- Every rule leaves what it left, if more than gaps is to come. -/
theorem left_append_break {s : List Char} {spans : List (Span Kind)} (h : grammar.Cut s spans)
    (hs : ¬∀ c ∈ s, isGap c = true) (hclosed : ClosesStrings (spans.filterMap grammar.tokenOf?))
    {c : Char} (hc : c = '\r' ∨ c = '\n') (b : List Char) {r : LexRule Kind}
    (hr : r ∈ grammar.rules) : r.left (s ++ c :: b) = r.left s ++ c :: b := by
  have hword : isWordCharacter c = false := by
    rcases hc with rfl | rfl <;> decide
  rcases mem_rules hr with hr | rfl | rfl
  · rcases List.mem_cons.mp hr with rfl | hr
    · have hne : s ≠ [] := by
        rintro rfl
        exact hs (by simp)
      exact LexRule.left_append_of_staysIn (by decide +kernel)
        (staysIn_string_of_cut h hne hclosed _) (by simp [atWordEnd, hword])
    · exact LexRule.left_append (stopsAt_break (List.mem_cons_of_mem _ hr) hc) hword s b
  · exact Grammar.left_gapRule_append hs _
  · exact LexRule.left_append (stopsAt_break List.mem_cons_self hc) hword s b

theorem tokensOf_append_break {a : List Char} (hclosed : ClosesStrings (grammar.tokensOf a))
    {c : Char} (hc : c = '\r' ∨ c = '\n') (b : List Char) :
    grammar.tokensOf (a ++ c :: b) = grammar.tokensOf a ++ grammar.tokensOf (c :: b) := by
  refine (grammar.cut_spans a).tokensOf_append fun u after hafter hcut _ => ?_
  by_cases hgap : ∀ d ∈ u, isGap d = true
  · right
    rw [skips.tokensOf_append hgap, skips.tokensOf_gap hgap, List.nil_append]
  · left
    have hafter' : ClosesStrings (after.filterMap grammar.tokenOf?) := fun t ht =>
      hclosed t ((hafter.sublist.filterMap _).subset ht)
    exact fun r hr => left_append_break hcut hgap hafter' hc b hr

/-- Line breaks between two texts keep their tokens apart, if the first closes its strings. -/
theorem tokenize_append_breaks (a b breaks : String) (hne : breaks ≠ "")
    (hbreaks : ∀ c ∈ breaks.toList, c = '\r' ∨ c = '\n')
    (hclosed : ClosesStrings (grammar.tokenize a)) :
    grammar.tokenize (a ++ breaks ++ b) = grammar.tokenize a ++ grammar.tokenize b := by
  have hgap : ∀ c ∈ breaks.toList, isGap c = true := by
    intro c hc
    rcases hbreaks c hc with rfl | rfl <;> decide
  have hdropped := skips.tokensOf_append hgap b.toList
  have hne' : breaks.toList ≠ [] := by simpa using hne
  obtain ⟨c, rest, hcons⟩ := List.exists_cons_of_ne_nil hne'
  rw [hcons] at hbreaks hdropped
  rw [Grammar.tokenize_eq_tokensOf, String.toList_append, String.toList_append, hcons,
    List.append_assoc, List.cons_append,
    tokensOf_append_break hclosed (hbreaks c List.mem_cons_self), ← List.cons_append, hdropped]
  rfl

/-- A closed string with a line break of its own and a quote of the other sort, a comment with
a quote, a keyword that would go on with the next line, and a quote there. -/
theorem tokenize_append_breaks_closed :
    let a := "'\\\n\"' # '\n[x, is"
    let b := " not 'y]"
    "\r\n" ≠ "" ∧ (∀ c ∈ "\r\n".toList, c = '\r' ∨ c = '\n')
      ∧ ClosesStrings (grammar.tokenize a)
      ∧ grammar.tokenize (a ++ "\r\n" ++ b) = grammar.tokenize a ++ grammar.tokenize b := by
  intro a b
  have hne : "\r\n" ≠ "" := by decide
  have hbreaks : ∀ c ∈ "\r\n".toList, c = '\r' ∨ c = '\n' := by simp
  have hclosed : ClosesStrings (grammar.tokenize a) := by decide +kernel
  exact ⟨hne, hbreaks, hclosed, tokenize_append_breaks a b "\r\n" hne hbreaks hclosed⟩

-- A quote that is left open may be closed behind the line break.
example : grammar.tokenize "'\n'" ≠ grammar.tokenize "'" ++ grammar.tokenize "'" := by
  decide +kernel

end ConceptInventory.Python
