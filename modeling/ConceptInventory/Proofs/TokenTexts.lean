import ConceptInventory.Proofs.TokenSeam
import ConceptInventory.Proofs.WholeWords

/-!
# Texts of tokens

The text of a token alone is scanned as that token, whatever stood behind it when it was
found. A rule that keeps its text is the first that matches it, and the text is a span of
its own. Only for words what comes next counts: a keyword that must end where the word ends
is taken for an identifier in front of a letter that no identifier may hold, and alone it is
the keyword.
-/
namespace ConceptInventory

variable {κ : Type}

/-! ## Words in front of a text and alone -/

namespace Lexicon

variable {l : Lexicon κ} {w t : List Char}

theorem keyword?_eq_none_of_text {s : String} (h : (l.token w t).text = some s) :
    l.keyword? w t = none := by
  rw [token] at h
  cases hk : l.keyword? w t with
  | none => rfl
  | some k =>
    rw [hk] at h
    cases h

/-- A word that is no keyword in front of a text is one alone only if it must end where the
text begins. -/
theorem eq_none_or_of_keyword? (h : l.keyword? w t = none) :
    l.keyword? w [] = none
      ∨ atWordEnd t = false ∧ ∃ e ∈ l.families, (∃ v ∈ e.1, v.toList = w)
        ∧ l.keyword? w [] = some e.2 := by
  rw [keyword?] at h ⊢
  cases hspelled : l.spellings.find? fun e => e.1.toList == w with
  | some e => simp [hspelled] at h
  | none =>
    simp only [hspelled] at h
    cases hfamily : l.families.find? fun e => e.1.any fun v => v.toList == w with
    | none => exact .inl rfl
    | some e =>
      have hend : atWordEnd t = false := by simpa [hfamily] using h
      have hw : ∃ v ∈ e.1, v.toList = w := by simpa using List.find?_some hfamily
      exact .inr ⟨hend, e, List.mem_of_find?_eq_some hfamily, hw, rfl⟩

end Lexicon

/-- Behind a word that goes on in the sense of Unicode comes a character beyond ASCII. -/
theorem exists_next_of_frontWord {m t : List Char} (hm : m = frontWord (m ++ t))
    (ht : atWordEnd t = false) :
    ∃ c rest, t = c :: rest ∧ 0x80 ≤ c.toNat ∧ isWordCharacter c = true := by
  cases t with
  | nil => cases ht
  | cons c rest =>
    have hword : isWordCharacter c = true := by simpa [atWordEnd] using ht
    refine ⟨c, rest, rfl, ?_, hword⟩
    by_contra hascii
    have hpart : isWordPart c = true := by
      rwa [isWordCharacter, if_pos (Nat.lt_of_not_le hascii)] at hword
    have hall : m.all isWordPart = true := by
      rw [hm]
      exact List.all_takeWhile
    have hlonger : m ++ [c] <+: frontWord (m ++ c :: rest) :=
      prefix_frontWord_of_all ⟨rest, by simp⟩ (by simp [hall, hpart])
    rw [← hm] at hlonger
    have hle := hlonger.length_le
    rw [List.length_append, List.length_singleton] at hle
    omega

/-! ## Spans with text -/

namespace Grammar

variable {g : Grammar κ} {m behind : List Char}

theorem keepsText_of_tokenOf? {r : LexRule κ} {t : Token κ} {s : String}
    (ht : g.tokenOf? ⟨m, some r⟩ = some t) (hs : t.text = some s) :
    r.keepsText = true ∧ r.kind = some t.kind ∧ s = String.ofList m := by
  obtain ⟨k, hk, rfl⟩ := Option.map_eq_some_iff.mp ht
  by_cases hkeeps : r.keepsText = true
  · rw [if_pos hkeeps] at hs
    exact ⟨hkeeps, hk, (Option.some.inj hs).symm⟩
  · rw [if_neg hkeeps] at hs
    cases hs

/-- A character that no rule matches where it stands is matched by none alone. -/
theorem tokenize_alone {c : Char} (hnull : ∀ r ∈ g.rules, r.pattern.nullable = false)
    (hshort : ∀ r ∈ g.rules, r.wholeWord = true → 2 ≤ r.pattern.shortest)
    (h : Decides g.rules (c :: behind) none) :
    g.tokenize (String.ofList [c]) = [⟨g.unrecognized, some (String.ofList [c])⟩] := by
  have hnone : ∀ r ∈ g.rules, ¬r.pattern.Covers [c] := by
    intro r hr hcovers
    -- what stands behind matters only to rules that take more than one character
    have hword : r.wholeWord = false := by
      by_contra hword
      have hle := Nat.le_trans (hshort r hr (by simpa using hword)) hcovers.shortest_le
      rw [List.length_singleton] at hle
      omega
    have hpos := LexRule.reach_pos (w := behind) (hnull r hr) hcovers
      (by simp [LexRule.endsAt, hword])
    rw [List.singleton_append, h r hr] at hpos
    exact Nat.lt_irrefl 0 hpos
  have halone : Decides g.rules [c] none :=
    decides_none_of_not_covers (w := []) (fun r _ => r.pattern.staysIn_nil [c]) hnone
  rw [tokenize_eq_tokensOf, String.toList_ofList, tokensOf_of_decides_none halone, tokensOf_nil]

end Grammar

namespace Lexicon

variable {l : Lexicon κ} {g : Grammar κ} {m behind : List Char} {t : Token κ} {s : String}

/-- Where a span is a word, it is all of the word, with the token of the lexicon. -/
theorem Governs.reads_word (h : l.Governs g) {q : LexRule κ} (hm : IsWord m)
    (hd : Decides g.rules (m ++ behind) (some (q, .of behind))) :
    m = frontWord (m ++ behind) ∧ g.tokenOf? ⟨m, some q⟩ = some (l.token m behind) := by
  obtain ⟨c, rest, rfl, hc⟩ := hm.startsWord
  have hs : StartsWord (c :: rest ++ behind) := ⟨c, rest ++ behind, rfl, hc⟩
  exact (h.reads_of_decides hs hd).word fun n => h.not_extends hs hd hm.all

/-- What a rule that keeps its text matches, that rule is the first to match, unless it is
the rule for identifiers; and scanning a text finds the first rule that matches it. -/
structure KeepsTexts (l : Lexicon κ) (g : Grammar κ) : Prop where
  governs : l.Governs g
  whole : ∀ m t, g.wholeToken? m = some t → g.tokenize (String.ofList m) = [t]
  kept : ∀ r ∈ g.rules, r.keepsText = true → r = l.identifierRule
    ∨ r.kind ≠ some l.identifier
      ∧ ∀ m, r.pattern.Covers m → g.wholeToken? m = g.tokenOf? ⟨m, some r⟩
  nullable : ∀ r ∈ g.rules, r.pattern.nullable = false
  short : ∀ r ∈ g.rules, r.wholeWord = true → 2 ≤ r.pattern.shortest
  unrecognized : g.unrecognized ≠ l.identifier

/-- The text of a token is scanned as the token, and if it is an identifier it is no keyword. -/
structure Restores (l : Lexicon κ) (g : Grammar κ) (t : Token κ) (s : String) : Prop where
  tokenize : g.tokenize s = [t]
  identifier : t.kind = l.identifier → IsWord s.toList ∧ l.keyword? s.toList [] = none

/-- An overlooked keyword is found in the text alone. -/
structure Uncovers (l : Lexicon κ) (g : Grammar κ) (t : Token κ) (s : String)
    (behind : List Char) : Prop where
  overlooks : l.Overlooks t behind
  tokenize : ∃ e ∈ l.families, s ∈ e.1 ∧ g.tokenize s = [.bare e.2]

theorem KeepsTexts.restores_or_uncovers (h : l.KeepsTexts g) {text : List Char} {span : Span κ}
    (hspan : g.HasSpan text span behind) (ht : g.tokenOf? span = some t) (hs : t.text = some s) :
    l.Restores g t s ∨ l.Uncovers g t s behind := by
  rcases hspan.decides with ⟨c, rfl, hd⟩ | ⟨m, q, rfl, hd⟩
  · obtain rfl : (⟨g.unrecognized, some (String.ofList [c])⟩ : Token κ) = t := Option.some.inj ht
    obtain rfl : String.ofList [c] = s := Option.some.inj hs
    exact .inl ⟨Grammar.tokenize_alone h.nullable h.short hd,
      fun hkind => (h.unrecognized hkind).elim⟩
  · have hmatch := Grammar.matches_of_decides hd
    obtain ⟨hkeeps, hkind, rfl⟩ := Grammar.keepsText_of_tokenOf? ht hs
    rcases h.kept q hmatch.mem hkeeps with rfl | ⟨hother, hwhole⟩
    · have hm : IsWord m := isWord_of_covers hmatch.covers
      obtain ⟨hfront, htoken⟩ := h.governs.reads_word hm hd
      obtain rfl : l.token m behind = t := Option.some.inj (htoken.symm.trans ht)
      have hnone := keyword?_eq_none_of_text hs
      -- alone the word is looked up again, in front of nothing, where every word ends
      have halone := h.whole m _ (h.governs.wholeToken?_word hm)
      rcases eq_none_or_of_keyword? hnone with hnone' | ⟨hend, e, he, ⟨v, hv, hvm⟩, hsome⟩
      · left
        rw [token, hnone'] at halone
        rw [token, hnone]
        exact ⟨halone, fun _ => by rw [String.toList_ofList]; exact ⟨hm, hnone'⟩⟩
      · right
        have hv' : v = String.ofList m := by rw [← hvm, String.ofList_toList]
        rw [token, hsome] at halone
        rw [token, hnone]
        exact ⟨⟨rfl, ⟨e, he, v, hv, congrArg some hv'.symm⟩, exists_next_of_frontWord hfront hend⟩,
          e, he, hv' ▸ hv, halone⟩
    · have htoken := h.whole m t ((hwhole m hmatch.covers).trans ht)
      exact .inl ⟨htoken, fun hkind' => (hother (hkind' ▸ hkind)).elim⟩

theorem Restores.not_overlooks (h : l.Restores g t s) (hs : t.text = some s)
    (behind : List Char) : ¬l.Overlooks t behind := by
  intro hover
  obtain ⟨e, he, v, hv, htext⟩ := hover.spelled
  obtain ⟨_, hfamilies⟩ := keyword?_nil_eq_none.mp (h.identifier hover.kind).2
  rw [hs] at htext
  exact hfamilies e he v hv (congrArg String.toList (Option.some.inj htext).symm)

theorem Uncovers.tokenize_ne (h : l.Uncovers g t s behind) (hs : t.text = some s) :
    g.tokenize s ≠ [t] := by
  obtain ⟨e, _, _, htokenize⟩ := h.tokenize
  intro hsame
  rw [htokenize] at hsame
  rw [← (List.cons.inj hsame).1] at hs
  cases hs

end Lexicon

/-! ## The two grammars -/

namespace CFamily

open Pattern

theorem keepsTexts : lexicon.KeepsTexts grammar where
  governs := governs
  whole _ _ htoken := separable.tokenize_of_wholeToken? htoken
  kept r hr hkeeps := by
    rcases mem_rules_cases hr with hr | hr | rfl | ⟨e, _, rfl⟩ | ⟨e, _, rfl⟩
    · right
      simp only [wordlessRules, List.mem_cons, List.not_mem_nil, or_false] at hr
      rcases hr with rfl | rfl | rfl | rfl | rfl | rfl | rfl
      · exact ⟨by decide, fun _ hm => wholeToken?_directive (exists_of_covers_directive hm)⟩
      · exact ⟨by decide, fun _ hm => wholeToken?_number hm⟩
      · exact ⟨by decide, fun _ hm => wholeToken?_string hm⟩
      · cases hkeeps
      · cases hkeeps
      · cases hkeeps
      · cases hkeeps
    · obtain ⟨e, _, rfl⟩ := List.mem_map.mp hr
      cases hkeeps
    · exact .inl rfl
    · cases hkeeps
    · cases hkeeps
  nullable := separable.nullable
  short := by
    have hall : (grammar.rules.all fun r => !r.wholeWord || decide (2 ≤ r.pattern.shortest))
        = true := by decide +kernel
    intro r hr hword
    simpa [hword] using List.all_eq_true.mp hall r hr
  unrecognized := by decide

end CFamily

namespace Python

open Pattern

theorem keepsTexts : lexicon.KeepsTexts grammar where
  governs := governs
  whole _ _ htoken := separable.tokenize_of_wholeToken? htoken
  kept r hr hkeeps := by
    left
    have hall : ∀ r ∈ wordlessRules ++ lexicon.longer, r.keepsText = false := by
      have hnone : ((wordlessRules ++ lexicon.longer).all fun r => !r.keepsText) = true := by
        decide +kernel
      simpa only [List.all_eq_true, Bool.not_eq_true'] using hnone
    rcases mem_rules_cases hr with hr | hr | rfl | ⟨e, _, rfl⟩
    · rw [hall r (List.mem_append_left _ hr)] at hkeeps
      cases hkeeps
    · rw [hall r (List.mem_append_right _ hr)] at hkeeps
      cases hkeeps
    · rfl
    · cases hkeeps
  nullable := separable.nullable
  short := by
    have hall : (grammar.rules.all fun r => !r.wholeWord || decide (2 ≤ r.pattern.shortest))
        = true := by decide +kernel
    intro r hr hword
    simpa [hword] using List.all_eq_true.mp hall r hr
  unrecognized := by decide

end Python

/-- The text of a token is scanned as that token, except that in the C family an identifier
may be spelled like a keyword, in front of a word character beyond ASCII, and then its text
is scanned as the keyword. No other identifier is a reserved word. -/
theorem tokenize_token_text :
    (∀ (text : String) (span : Span CFamily.Kind) (behind : List Char) (t : Token CFamily.Kind)
      (s : String), CFamily.grammar.HasSpan text.toList span behind →
      CFamily.grammar.tokenOf? span = some t → t.text = some s →
        (CFamily.grammar.tokenize s = [t] ↔ ¬CFamily.lexicon.Overlooks t behind)
        ∧ (CFamily.lexicon.Overlooks t behind →
          ∃ e ∈ CFamily.wordFamilies, s ∈ e.1 ∧ CFamily.grammar.tokenize s = [.bare e.2])
        ∧ (t.kind = .identifier →
          IsReserved CFamily.spellings CFamily.keywordFamilies s.toList →
            CFamily.lexicon.Overlooks t behind))
    ∧ ∀ (text : String) (span : Span Python.Kind) (behind : List Char) (t : Token Python.Kind)
      (s : String), Python.grammar.HasSpan text.toList span behind →
      Python.grammar.tokenOf? span = some t → t.text = some s →
        Python.grammar.tokenize s = [t]
        ∧ (t.kind = .identifier →
          ¬IsReserved Python.spellings Python.keywordFamilies s.toList) := by
  constructor
  · intro text span behind t s hspan ht hs
    rcases CFamily.keepsTexts.restores_or_uncovers hspan ht hs with h | h
    · have hnot := h.not_overlooks hs behind
      refine ⟨iff_of_true h.tokenize hnot, fun hover => (hnot hover).elim, ?_⟩
      intro hkind hreserved
      obtain ⟨hword, hnone⟩ := h.identifier hkind
      exact ((CFamily.not_isReserved_iff hword).mpr hnone hreserved).elim
    · exact ⟨iff_of_false (h.tokenize_ne hs) (not_not_intro h.overlooks), fun _ => h.tokenize,
        fun _ _ => h.overlooks⟩
  · intro text span behind t s hspan ht hs
    rcases Python.keepsTexts.restores_or_uncovers hspan ht hs with h | h
    · refine ⟨h.tokenize, fun hkind hreserved => ?_⟩
      obtain ⟨hword, hnone⟩ := h.identifier hkind
      exact (Python.not_isReserved_iff hword).mpr hnone hreserved
    · obtain ⟨e, he, _⟩ := h.tokenize
      cases he

/-- An overlooked keyword, a number with a letter behind it, and a word that could have been
a keyword and a call. -/
theorem tokenize_token_text_at_letters :
    (∃ span, CFamily.grammar.HasSpan "char\u00e9".toList span "\u00e9".toList
      ∧ CFamily.grammar.tokenOf? span = some ⟨.identifier, some "char"⟩
      ∧ CFamily.lexicon.Overlooks ⟨.identifier, some "char"⟩ "\u00e9".toList
      ∧ ∃ e ∈ CFamily.wordFamilies, "char" ∈ e.1 ∧ CFamily.grammar.tokenize "char" = [.bare e.2])
    ∧ (∃ span, CFamily.grammar.HasSpan "-0x1fg".toList span "g".toList
      ∧ CFamily.grammar.tokenOf? span = some ⟨.number, some "0x1f"⟩
      ∧ ¬CFamily.lexicon.Overlooks ⟨.number, some "0x1f"⟩ "g".toList
      ∧ CFamily.grammar.tokenize "0x1f" = [⟨.number, some "0x1f"⟩])
    ∧ ∃ span, Python.grammar.HasSpan "not_in(x:".toList span "(x:".toList
      ∧ Python.grammar.tokenOf? span = some ⟨.identifier, some "not_in"⟩
      ∧ Python.grammar.tokenize "not_in" = [⟨.identifier, some "not_in"⟩]
      ∧ ¬IsReserved Python.spellings Python.keywordFamilies "not_in".toList := by
  refine ⟨?_, ?_, ?_⟩
  · obtain ⟨span, _, ht, hspan⟩ : ∃ span, span.text = "char".toList
        ∧ CFamily.grammar.tokenOf? span = some ⟨.identifier, some "char"⟩
        ∧ CFamily.grammar.HasSpan "char\u00e9".toList span "\u00e9".toList :=
      Grammar.exists_hasSpan 0 [("\u00e9".toList, some ⟨.unrecognized, some "\u00e9"⟩)]
        (by decide +kernel)
    have hover : CFamily.lexicon.Overlooks ⟨.identifier, some "char"⟩ "\u00e9".toList :=
      { kind := rfl
        spelled := ⟨_, List.mem_cons_self, "char", by decide, rfl⟩
        next := ⟨'\u00e9', [], rfl, by decide, by decide +kernel⟩ }
    exact ⟨span, hspan, ht, hover, (tokenize_token_text.1 _ span _ _ _ hspan ht rfl).2.1 hover⟩
  · obtain ⟨span, _, ht, hspan⟩ : ∃ span, span.text = "0x1f".toList
        ∧ CFamily.grammar.tokenOf? span = some ⟨.number, some "0x1f"⟩
        ∧ CFamily.grammar.HasSpan "-0x1fg".toList span "g".toList :=
      Grammar.exists_hasSpan 1 [("g".toList, some ⟨.identifier, some "g"⟩)] (by decide +kernel)
    have hnot : ¬CFamily.lexicon.Overlooks ⟨.number, some "0x1f"⟩ "g".toList := fun hover => by
      cases hover.kind
    exact ⟨span, hspan, ht, hnot, (tokenize_token_text.1 _ span _ _ _ hspan ht rfl).1.mpr hnot⟩
  · obtain ⟨span, _, ht, hspan⟩ : ∃ span, span.text = "not_in".toList
        ∧ Python.grammar.tokenOf? span = some ⟨.identifier, some "not_in"⟩
        ∧ Python.grammar.HasSpan "not_in(x:".toList span "(x:".toList :=
      Grammar.exists_hasSpan 0 [(['('], some (.bare .openParen)),
        (['x'], some ⟨.identifier, some "x"⟩), ([':'], some (.bare .colon))] (by decide +kernel)
    obtain ⟨htokenize, hreserved⟩ := tokenize_token_text.2 _ span _ _ _ hspan ht rfl
    exact ⟨span, hspan, ht, htokenize, hreserved rfl⟩

end ConceptInventory
