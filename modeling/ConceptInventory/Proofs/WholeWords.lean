import ConceptInventory.Proofs.DroppedText

/-!
# Words are not split

A span that starts with a word holds all of it, since the rule for identifiers reaches to
the end of the word. So the deciding rule either takes more than a word or takes the word
as it is, and then it is the first rule that may take it. Which rule that is a lexicon
tells.
-/
namespace ConceptInventory

variable {κ : Type}

/-! ## Spans of a text -/

/-- A span is one character on which nothing decides, or its rule decides there. -/
theorem Grammar.HasSpan.decides {g : Grammar κ} {text behind : List Char} {span : Span κ}
    (h : g.HasSpan text span behind) :
    (∃ c, span = ⟨[c], none⟩ ∧ Decides g.rules (c :: behind) none)
      ∨ ∃ m q, span = ⟨m, some q⟩ ∧ Decides g.rules (m ++ behind) (some (q, .of behind)) := by
  obtain ⟨before, after, hspans, rfl⟩ := h
  have hcut := g.cut_spans text
  rw [hspans] at hcut
  have hbehind := hcut.of_append
  generalize hs : (span :: after).flatMap Span.text = s at hbehind
  cases hbehind with
  | alone hd hr => exact .inl ⟨_, rfl, hr.flatMap_text ▸ hd⟩
  | ruled hd hr => exact .inr ⟨_, _, rfl, hr.flatMap_text ▸ hd⟩

/-- A span is found by its place, with its text and token. -/
theorem Grammar.exists_hasSpan {g : Grammar κ} {text m : List Char} {t? : Option (Token κ)}
    (i : Nat) (after : List (List Char × Option (Token κ)))
    (h : ((g.spans text).map fun span => (span.text, g.tokenOf? span)).drop i
      = (m, t?) :: after) :
    ∃ span, span.text = m ∧ g.tokenOf? span = t?
      ∧ g.HasSpan text span (after.flatMap Prod.fst) := by
  rw [← List.map_drop] at h
  obtain ⟨span, behind, hspans, hspan, rfl⟩ := List.map_eq_cons_iff.mp h
  obtain ⟨rfl, rfl⟩ := Prod.mk.inj hspan
  refine ⟨span, rfl, rfl, (g.spans text).take i, behind, ?_, ?_⟩
  · rw [← hspans, List.take_append_drop]
  · rw [List.flatMap_map]

/-! ## The rule that decides -/

namespace Grammar

variable {g : Grammar κ} {m t : List Char}

theorem Matches.mayTake {r : LexRule κ} (h : g.Matches r m t) : r.MayTake m t where
  covers := h.covers
  ends := by
    have hleft := h.left
    rw [LexRule.rest?_eq_find?, Option.map_eq_some_iff] at hleft
    obtain ⟨u, hu, hut⟩ := hleft
    obtain rfl : u = t := congrArg Rest.chars hut
    exact List.find?_some hu

/-- The rule that decides on a text is the first that may take it: any rule in front that
may take it would reach as far. -/
theorem firstRule?_of_decides {q : LexRule κ}
    (hlongest : ∀ r ∈ g.rules, r.pattern.Covers m → r.pattern.LongestFirst)
    (hd : Decides g.rules (m ++ t) (some (q, .of t))) : g.firstRule? m t = some q := by
  have hreach := hd.reach_eq
  have htake := (matches_of_decides hd).mayTake
  obtain ⟨before, after, hrules, _, _, hbefore, _⟩ := hd
  rw [firstRule?, List.find?_eq_some_iff_append]
  refine ⟨decide_eq_true htake, before, after, hrules, fun b hb => ?_⟩
  rw [Bool.not_eq_true', decide_eq_false_iff_not]
  intro htake'
  have hlt := hbefore b hb
  have hle := LexRule.le_reach_of_covers (hlongest b (by simp [hrules, hb]) htake'.covers)
    htake'.covers htake'.ends
  omega

end Grammar

/-! ## Spans that start with a word -/

namespace Lexicon.Governs

variable {l : Lexicon κ} {g : Grammar κ}

theorem identifierRule_mem (h : l.Governs g) : l.identifierRule ∈ g.rules := by
  obtain ⟨front, middle, behind, hrules, _, _⟩ := h.rules
  simp [hrules]

variable {m t n rest : List Char} {q : LexRule κ}

/-- Nothing that may be taken at the front of a text that starts with a word is longer than
what is. -/
theorem length_le (h : l.Governs g) (hs : StartsWord (m ++ rest))
    (hd : Decides g.rules (m ++ rest) (some (q, .of rest))) {r : LexRule κ} (hr : r ∈ g.rules)
    (hn : m ++ rest = n ++ t) (htake : r.MayTake n t) : n.length ≤ m.length := by
  by_cases hnil : n = []
  · simp [hnil]
  · have hpre : n <+: m ++ rest := ⟨t, hn.symm⟩
    have hlongest := h.longestFirst r hr n (hs.of_prefix hpre hnil) htake.covers
    have hreach := LexRule.le_reach_of_covers hlongest htake.covers htake.ends
    have hle := hd.reach_le hr
    rw [← hn] at hreach
    rw [hd.reach_eq] at hle
    exact Nat.le_trans hreach hle

theorem le_reach_identifierRule (h : l.Governs g) {s : List Char} (hs : StartsWord s) :
    (frontWord s).length ≤ l.identifierRule.reach s := by
  have hword := hs.isWord_frontWord
  have hlongest := h.longestFirst _ h.identifierRule_mem _ hword.startsWord hword.covers
  have hreach := LexRule.le_reach_of_covers (w := s.dropWhile isWordPart) hlongest hword.covers rfl
  rwa [frontWord, List.takeWhile_append_dropWhile] at hreach

/-- The rule for identifiers takes the word, so no less is taken. -/
theorem frontWord_prefix_of_decides (h : l.Governs g) (hs : StartsWord (m ++ rest))
    (hd : Decides g.rules (m ++ rest) (some (q, .of rest))) : frontWord (m ++ rest) <+: m := by
  have hreach := h.le_reach_identifierRule hs
  have hle := hd.reach_le h.identifierRule_mem
  rw [hd.reach_eq] at hle
  exact List.prefix_of_prefix_length_le (isPrefix_frontWord _) (List.prefix_append m rest)
    (Nat.le_trans hreach hle)

/-- More than a word that may be taken holds a character no word has. -/
theorem not_extends (h : l.Governs g) (hs : StartsWord (m ++ rest))
    (hd : Decides g.rules (m ++ rest) (some (q, .of rest))) (hm : m.all isWordPart = true) :
    ¬l.Extends (m ++ rest) n := by
  rintro ⟨t, hn, r, hr, htake⟩
  have hle := h.length_le hs hd (h.longer_mem r hr) hn htake
  have hpre : n <+: m :=
    List.prefix_of_prefix_length_le ⟨t, hn.symm⟩ (List.prefix_append m rest) hle
  apply h.longer_not_word r hr n htake.covers
  rw [List.all_eq_true] at hm ⊢
  exact fun c hc => hm c (hpre.subset hc)

theorem reads_of_decides (h : l.Governs g) (hs : StartsWord (m ++ rest))
    (hd : Decides g.rules (m ++ rest) (some (q, .of rest))) : l.Reads g ⟨m, some q⟩ rest := by
  have hmatch := Grammar.matches_of_decides hd
  have hwhole := h.frontWord_prefix_of_decides hs hd
  have hm := hs.of_prefix (List.prefix_append m rest) hmatch.ne_nil
  rcases h.word q hmatch.mem m hm hmatch.covers with hlonger | hword
  · exact {
      whole := hwhole
      longer _ := by
        refine ⟨⟨q, hlonger, rfl, hmatch.mayTake⟩, ?_⟩
        rintro n ⟨t, hn, r, hr, htake⟩
        exact h.length_le hs hd (h.longer_mem r hr) hn htake
      word hno := (hno m ⟨rest, rfl, q, hlonger, hmatch.mayTake⟩).elim }
  -- the match is a word and reaches to the end of the word in front, so it is that word
  · have hpre := prefix_frontWord_of_all (List.prefix_append m rest) hword.all
    have hsame : m = frontWord (m ++ rest) := hpre.eq_of_length_le hwhole.length_le
    have hfirst := Grammar.firstRule?_of_decides
      (fun r hr hcovers => h.longestFirst r hr m hm hcovers) hd
    have htoken := h.bind_firstRule? hword rest
    rw [hfirst] at htoken
    exact {
      whole := hwhole
      longer := fun ⟨n, hn⟩ => (h.not_extends hs hd hword.all hn).elim
      word _ := ⟨hsame, htoken⟩ }

/-- Every span that starts with a word goes by the lexicon. -/
theorem reads (h : l.Governs g) {text behind : List Char} {span : Span κ}
    (hspan : g.HasSpan text span behind) (hs : StartsWord (span.text ++ behind)) :
    l.Reads g span behind := by
  rcases hspan.decides with ⟨c, rfl, hd⟩ | ⟨m, q, rfl, hd⟩
  · have hreach := h.le_reach_identifierRule hs
    obtain ⟨d, rest, hword, _⟩ := hs.isWord_frontWord.exists_cons
    rw [hword, List.singleton_append, hd _ h.identifierRule_mem] at hreach
    cases hreach
  · exact h.reads_of_decides hs hd

end Lexicon.Governs

/-- No word is split. In both grammars a span that starts with a word is the longest of what
the rules for more than a word may take there, and if these may take nothing it is the word,
a keyword or an identifier as the lexicon has it. -/
theorem words_read_whole :
    (∀ (text : String) (span : Span CFamily.Kind) (behind : List Char),
      CFamily.grammar.HasSpan text.toList span behind → StartsWord (span.text ++ behind) →
        CFamily.lexicon.Reads CFamily.grammar span behind)
    ∧ ∀ (text : String) (span : Span Python.Kind) (behind : List Char),
      Python.grammar.HasSpan text.toList span behind → StartsWord (span.text ++ behind) →
        Python.lexicon.Reads Python.grammar span behind :=
  ⟨fun _ _ _ hspan hs => CFamily.governs.reads hspan hs,
    fun _ _ _ hspan hs => Python.governs.reads hspan hs⟩

/-- The longer of two phrases stops short of a word, a keyword stands in front of a letter
that is not ASCII, and a phrase in front of one that is. -/
theorem words_read_whole_at_boundaries :
    (∃ span, span.text = "long  long".toList
      ∧ CFamily.grammar.HasSpan "x long  long int9".toList span " int9".toList
      ∧ StartsWord (span.text ++ " int9".toList)
      ∧ CFamily.lexicon.Reads CFamily.grammar span " int9".toList)
    ∧ (∃ span, span.text = "char".toList
      ∧ CFamily.grammar.HasSpan "(char\u00e9".toList span "\u00e9".toList
      ∧ StartsWord (span.text ++ "\u00e9".toList)
      ∧ CFamily.lexicon.Reads CFamily.grammar span "\u00e9".toList)
    ∧ ∃ span, span.text = "is".toList
      ∧ Python.grammar.HasSpan "f(x) is notx".toList span " notx".toList
      ∧ StartsWord (span.text ++ " notx".toList)
      ∧ Python.lexicon.Reads Python.grammar span " notx".toList := by
  refine ⟨?_, ?_, ?_⟩
  · obtain ⟨span, htext, _, hspan⟩ : ∃ span, span.text = "long  long".toList
        ∧ CFamily.grammar.tokenOf? span = some (.bare .kwLongLong)
        ∧ CFamily.grammar.HasSpan "x long  long int9".toList span " int9".toList :=
      Grammar.exists_hasSpan 2 [([' '], none), ("int9".toList, some ⟨.identifier, some "int9"⟩)]
        (by decide +kernel)
    have hs : StartsWord (span.text ++ " int9".toList) := htext ▸ by decide
    exact ⟨span, htext, hspan, hs, words_read_whole.1 _ span _ hspan hs⟩
  · obtain ⟨span, htext, _, hspan⟩ : ∃ span, span.text = "char".toList
        ∧ CFamily.grammar.tokenOf? span = some ⟨.identifier, some "char"⟩
        ∧ CFamily.grammar.HasSpan "(char\u00e9".toList span "\u00e9".toList :=
      Grammar.exists_hasSpan 1 [("\u00e9".toList, some ⟨.unrecognized, some "\u00e9"⟩)]
        (by decide +kernel)
    have hs : StartsWord (span.text ++ "\u00e9".toList) := htext ▸ by decide
    exact ⟨span, htext, hspan, hs, words_read_whole.1 _ span _ hspan hs⟩
  · obtain ⟨span, htext, _, hspan⟩ : ∃ span, span.text = "is".toList
        ∧ Python.grammar.tokenOf? span = some (.bare .kwIs)
        ∧ Python.grammar.HasSpan "f(x) is notx".toList span " notx".toList :=
      Grammar.exists_hasSpan 2 [([' '], none), ("notx".toList, some ⟨.identifier, some "notx"⟩)]
        (by decide +kernel)
    have hs : StartsWord (span.text ++ " notx".toList) := htext ▸ by decide
    exact ⟨span, htext, hspan, hs, words_read_whole.2 _ span _ hspan hs⟩

end ConceptInventory
