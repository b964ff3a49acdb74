import ConceptInventory.Proofs.FragmentOrder
import ConceptInventory.Proofs.SurroundingGaps
import ConceptInventory.Proofs.WholeWords

/-!
# Keywords read as calls

The name of a call may be any word. So a Python keyword with plain arguments in parentheses
right behind it is a call to the grammar, and what is recorded is a function. Nothing else
takes a keyword away: it is read as itself, or as part of a phrase that starts with it, and
recorded.
-/
namespace ConceptInventory

/-- A span gives its token to the text. -/
theorem Grammar.HasSpan.mem_tokenize {κ : Type} {g : Grammar κ} {text : String}
    {behind : List Char} {span : Span κ} (h : g.HasSpan text.toList span behind) {t : Token κ}
    (ht : g.tokenOf? span = some t) : t ∈ g.tokenize text := by
  obtain ⟨before, after, hspans, _⟩ := h
  rw [tokenize, hspans]
  exact List.mem_filterMap.mpr ⟨span, by simp, ht⟩

namespace Python

open Pattern

/-! ## Calls and phrases -/

/-- What may stand between the parentheses of a call. -/
def isArgumentPart (c : Char) : Bool := isWordPart c || c == ',' || c == ' '

/-- Plain arguments in parentheses stand at the front of the text. -/
def OpensArguments (s : List Char) : Prop :=
  ∃ arguments rest, s = '(' :: (arguments ++ ')' :: rest) ∧ arguments.all isArgumentPart = true

/-- The phrases of two words. -/
def phrases : List ((String × String) × Kind) :=
  [(("is", "not"), .kwIsNot), (("not", "in"), .kwNotIn)]

/-- The kinds a keyword may be read as: its own and those of the phrases it starts. -/
def kindsOf (e : String × Kind) : List Kind :=
  e.2 :: (phrases.filter fun p => p.1.1 == e.1).map Prod.snd

theorem longer_eq : lexicon.longer
    = phrases.map (fun p => .keyword (twoWords p.1.1 p.1.2) p.2) ++ [callRule] := rfl

theorem covers_call {m : List Char} : call.Covers m
    ↔ ∃ word arguments, m = word ++ '(' :: (arguments ++ [')'])
      ∧ (word ≠ [] ∧ ∀ c ∈ word, isWordPart c = true) ∧ arguments.all isArgumentPart = true := by
  simp only [call, inOrder, List.foldr_cons, List.foldr_nil, covers_seq, covers_char, covers_empty,
    covers_plus_one, covers_many_one_iff]
  constructor
  · rintro ⟨word, _, rfl, hword, _, _, rfl, rfl, arguments, _, rfl, harguments, _, _, rfl, rfl, rfl⟩
    exact ⟨word, arguments, by simp, hword, harguments⟩
  · rintro ⟨word, arguments, rfl, hword, harguments⟩
    exact ⟨word, _, rfl, hword, ['('], _, rfl, rfl, arguments, _, rfl, harguments, [')'], [], rfl,
      rfl, rfl⟩

theorem covers_twoWords {v w : String} {m : List Char} : (twoWords v w).Covers m
    ↔ ∃ gap, m = v.toList ++ (gap ++ w.toList) ∧ gap ≠ [] ∧ ∀ c ∈ gap, c = ' ' ∨ c = '\t' := by
  simp only [twoWords, inOrder, List.foldr_cons, List.foldr_nil, covers_seq, covers_lit,
    covers_empty, oneOf, covers_plus_one]
  constructor
  · rintro ⟨_, _, rfl, rfl, gap, _, rfl, ⟨hne, hgap⟩, _, _, rfl, rfl, rfl⟩
    exact ⟨gap, by simp, hne, fun c hc => by simpa using hgap c hc⟩
  · rintro ⟨gap, rfl, hne, hgap⟩
    exact ⟨_, _, rfl, rfl, gap, _, rfl, ⟨hne, fun c hc => by simpa using hgap c hc⟩, _, [],
      by simp, rfl, rfl⟩

variable {s m t : List Char}

theorem dropWhile_append_cons (hall : m.all isWordPart = true) {c : Char}
    (hc : isWordPart c = false) (s : List Char) :
    (m ++ c :: s).dropWhile isWordPart = c :: s := by
  rw [List.dropWhile_append_of_pos (List.all_eq_true.mp hall),
    List.dropWhile_cons_of_neg (by simp [hc])]

/-- Behind the word in front plain arguments follow if the text starts with a call. -/
theorem opensArguments_iff (hs : StartsWord s) :
    OpensArguments (s.dropWhile isWordPart) ↔ ∃ m t, s = m ++ t ∧ call.Covers m := by
  constructor
  · rintro ⟨arguments, t, hrest, harguments⟩
    have hword := hs.isWord_frontWord
    obtain ⟨c, letters, hcons, _⟩ := hword.exists_cons
    refine ⟨frontWord s ++ '(' :: (arguments ++ [')']), t, ?_, covers_call.mpr
      ⟨frontWord s, arguments, rfl, ⟨by simp [hcons], List.all_eq_true.mp hword.all⟩, harguments⟩⟩
    calc s = frontWord s ++ s.dropWhile isWordPart := List.takeWhile_append_dropWhile.symm
      _ = frontWord s ++ '(' :: (arguments ++ [')']) ++ t := by rw [hrest]; simp
  · rintro ⟨m, t, rfl, hcall⟩
    obtain ⟨word, arguments, rfl, ⟨_, hword⟩, harguments⟩ := covers_call.mp hcall
    refine ⟨arguments, t, ?_, harguments⟩
    rw [List.append_assoc, List.cons_append, List.append_assoc, List.singleton_append,
      dropWhile_append_cons (List.all_eq_true.mpr hword) (by decide)]

/-- A phrase starts with its first word, and a gap follows and no parenthesis. -/
theorem frontWord_of_covers_twoWords {v w : String} (hv : v.toList.all isWordPart = true)
    (hm : (twoWords v w).Covers m) :
    frontWord (m ++ t) = v.toList ∧ ¬OpensArguments ((m ++ t).dropWhile isWordPart) := by
  obtain ⟨gap, rfl, hne, hgap⟩ := covers_twoWords.mp hm
  obtain ⟨c, gap, rfl⟩ := List.exists_cons_of_ne_nil hne
  have hc : isWordPart c = false ∧ c ≠ '(' := by
    rcases hgap c List.mem_cons_self with rfl | rfl <;> decide
  rw [List.append_assoc, List.cons_append, List.cons_append, frontWord_append_cons hv hc.1,
    dropWhile_append_cons hv hc.1]
  refine ⟨rfl, ?_⟩
  rintro ⟨arguments, rest, hrest, _⟩
  exact hc.2 (List.cons.inj hrest).1

/-! ## Keywords in front -/

theorem keyword?_of_mem {e : String × Kind} (he : e ∈ spellings) (t : List Char) :
    lexicon.keyword? e.1.toList t = some e.2 := by
  have hall : ∀ e ∈ spellings, spellings.find? (fun d => d.1.toList == e.1.toList) = some e := by
    decide +kernel
  rw [Lexicon.keyword?, lexicon, hall e he]

theorem startsWord_of_frontWord (h : IsWord (frontWord s)) : StartsWord s := by
  obtain ⟨c, letters, hcons, hc⟩ := h.exists_cons
  obtain ⟨rest, hrest⟩ := isPrefix_frontWord s
  exact ⟨c, letters ++ rest, by rw [← hrest, hcons, List.cons_append], hc⟩

/-- A span that starts with a keyword is a call if plain arguments follow, else the keyword
or a phrase it starts. -/
theorem called_or_kept {text behind : List Char} {span : Span Kind}
    (hspan : grammar.HasSpan text span behind) {e : String × Kind} (he : e ∈ spellings)
    (hword : IsWord e.1.toList) (hfront : frontWord (span.text ++ behind) = e.1.toList) :
    (OpensArguments ((span.text ++ behind).dropWhile isWordPart)
        ∧ grammar.tokenOf? span = some (.bare .functionCall))
      ∨ (¬OpensArguments ((span.text ++ behind).dropWhile isWordPart)
        ∧ ∃ k ∈ kindsOf e, grammar.tokenOf? span = some (.bare k)) := by
  have hs : StartsWord (span.text ++ behind) := startsWord_of_frontWord (hfront ▸ hword)
  have hreads := governs.reads hspan hs
  by_cases hlonger : ∃ m, lexicon.Extends (span.text ++ behind) m
  · obtain ⟨⟨r, hr, hrule, htake⟩, _⟩ := hreads.longer hlonger
    rw [longer_eq, List.mem_append, List.mem_map, List.mem_singleton] at hr
    rcases hr with ⟨p, hp, rfl⟩ | rfl
    · have hfirst : ∀ p ∈ phrases, p.1.1.toList.all isWordPart = true := by decide
      obtain ⟨hstart, hno⟩ := frontWord_of_covers_twoWords (hfirst p hp) htake.covers
      have hsame : p.1.1 = e.1 := String.toList_injective (hstart.symm.trans hfront)
      refine .inr ⟨hno, p.2, List.mem_cons_of_mem _ (List.mem_map_of_mem ?_), ?_⟩
      · exact List.mem_filter.mpr ⟨hp, beq_iff_eq.mpr hsame⟩
      · rw [Grammar.tokenOf?, hrule]
        rfl
    · refine .inl ⟨(opensArguments_iff hs).mpr ⟨_, _, rfl, htake.covers⟩, ?_⟩
      rw [Grammar.tokenOf?, hrule]
      rfl
  · obtain ⟨htext, htoken⟩ := hreads.word (not_exists.mp hlonger)
    refine .inr ⟨fun hopens => ?_, e.2, List.mem_cons_self, ?_⟩
    · obtain ⟨m, t, hm, hcall⟩ := (opensArguments_iff hs).mp hopens
      exact hlonger ⟨m, t, hm, callRule, by simp [longer_eq], hcall, rfl⟩
    · rw [htoken, htext, hfront, Lexicon.token, keyword?_of_mem he]

/-! ## Recording -/

theorem filed_of_home {k : Kind} {outer : List String} (h : home k = some outer) :
    treatment k = .filed outer := by
  rw [home] at h
  cases htreatment : treatment k with
  | filed _ =>
    rw [htreatment] at h
    rw [Option.some.inj h]
  | skipped =>
    rw [htreatment] at h
    cases h
  | byContext a => exact a.elim

/-- Nothing around a token keeps it from being recorded. -/
theorem shows_of_home {text : String} {t : Token Kind} (ht : t ∈ grammar.tokenize text)
    {outer : List String} (h : home t.kind = some outer) :
    Language.shows .python t.literal text = true := by
  obtain ⟨i, hi⟩ := List.mem_iff_getElem?.mp ht
  have hclassify : classify (.onList (grammar.tokenize text) i) = some (.file t outer) := by
    rw [classify, Window.onList_current, hi, Option.bind_some, filed_of_home h]
  exact Dialect.shows_iff.mpr ⟨i, t, hi, _, hclassify, rfl⟩

/-- Everything a keyword may be read as is recorded somewhere. -/
theorem exists_home {e : String × Kind} (he : e ∈ spellings) (hword : IsWord e.1.toList)
    {k : Kind} (hk : k ∈ kindsOf e) : ∃ outer, home k = some outer := by
  have hall : ∀ e ∈ spellings, IsWord e.1.toList → ∀ k ∈ kindsOf e, (home k).isSome = true := by
    decide +kernel
  exact Option.isSome_iff_exists.mp (hall e he hword k hk)

/-- A keyword is read as a call if and only if plain arguments in parentheses stand right
behind it. Otherwise it is read as itself or as a phrase it starts, and every extractor that
reads the text records it. -/
theorem keyword_kept_unless_called (text : String) (span : Span Kind) (behind : List Char)
    (hspan : grammar.HasSpan text.toList span behind) (e : String × Kind) (he : e ∈ spellings)
    (hword : IsWord e.1.toList) (hfront : frontWord (span.text ++ behind) = e.1.toList) :
    let following := (span.text ++ behind).dropWhile isWordPart
    (grammar.tokenOf? span = some (.bare .functionCall) ↔ OpensArguments following)
      ∧ (¬OpensArguments following → ∃ k ∈ kindsOf e,
        grammar.tokenOf? span = some (.bare k)
          ∧ ∀ (x : Extractor) (offset : Int), x.language = .python →
            (x.read text offset).inventory.has (Token.bare k).literal = true) := by
  intro following
  rcases called_or_kept hspan he hword hfront with ⟨hopens, hcalled⟩ | ⟨hno, k, hk, hkept⟩
  · exact ⟨iff_of_true hcalled hopens, fun hno => (hno hopens).elim⟩
  · have hne : Kind.functionCall ∉ kindsOf e := by
      have hall : ∀ e ∈ spellings, Kind.functionCall ∉ kindsOf e := by decide +kernel
      exact hall e he
    refine ⟨iff_of_false (fun hcalled => ?_) hno, fun _ => ⟨k, hk, hkept, fun x offset hx => ?_⟩⟩
    · rw [hkept] at hcalled
      injection hcalled with hcalled
      injection hcalled with hcalled
      exact hne (hcalled ▸ hk)
    · obtain ⟨outer, hhome⟩ := exists_home he hword hk
      have hshows := shows_of_home (hspan.mem_tokenize hkept) hhome
      rw [Extractor.has_read, hx, hshows, Bool.or_true]

/-- A phrase that starts with a keyword stands in front of the parentheses. -/
theorem keyword_kept_unless_called_in_phrase : ∃ span, span.text = "is not".toList
    ∧ grammar.HasSpan "a is not(b)".toList span "(b)".toList
    ∧ ("is", Kind.kwIs) ∈ spellings ∧ IsWord "is".toList
    ∧ frontWord (span.text ++ "(b)".toList) = "is".toList
    ∧ ¬OpensArguments ((span.text ++ "(b)".toList).dropWhile isWordPart)
    ∧ grammar.tokenOf? span = some (.bare .kwIsNot)
    ∧ ((Extractor.start "u" .python).read "a is not(b)" 0).inventory.has "IsNot" = true := by
  obtain ⟨span, htext, htoken, hspan⟩ : ∃ span, span.text = "is not".toList
      ∧ grammar.tokenOf? span = some (.bare .kwIsNot)
      ∧ grammar.HasSpan "a is not(b)".toList span "(b)".toList :=
    Grammar.exists_hasSpan 2 [("(".toList, some (.bare .openParen)),
      ("b".toList, some ⟨.identifier, some "b"⟩), (")".toList, some (.bare .closeParen))]
      (by decide +kernel)
  have he : ("is", Kind.kwIs) ∈ spellings := by decide
  have hword : IsWord "is".toList := by decide
  have hfront : frontWord (span.text ++ "(b)".toList) = "is".toList := by rw [htext]; decide
  have hno : ¬OpensArguments ((span.text ++ "(b)".toList).dropWhile isWordPart) := by
    rw [htext]
    rintro ⟨_, _, hopen, _⟩
    exact absurd (List.cons.inj hopen).1 (by decide)
  obtain ⟨k, _, hkept, hrecorded⟩ :=
    (keyword_kept_unless_called "a is not(b)" span _ hspan _ he hword hfront).2 hno
  obtain rfl : k = .kwIsNot := by
    rw [htoken] at hkept
    cases hkept
    rfl
  exact ⟨span, htext, hspan, he, hword, hfront, hno, htoken, hrecorded _ 0 rfl⟩

/-- A condition is taken for a call, and only a function is recorded. -/
theorem condition_called : ∃ span, span.text = "if(x)".toList
    ∧ grammar.HasSpan "if(x)".toList span [] ∧ ("if", Kind.kwIf) ∈ spellings
    ∧ frontWord (span.text ++ []) = "if".toList
    ∧ grammar.tokenOf? span = some (.bare .functionCall)
    ∧ ((Extractor.start "u" .python).read "if(x)" 0).inventory.concepts.map Concept.token
      = ["Function"] := by
  obtain ⟨span, htext, htoken, hspan⟩ : ∃ span, span.text = "if(x)".toList
      ∧ grammar.tokenOf? span = some (.bare .functionCall)
      ∧ grammar.HasSpan "if(x)".toList span [] :=
    Grammar.exists_hasSpan 0 [] (by decide +kernel)
  exact ⟨span, htext, hspan, by decide, by rw [htext]; decide, htoken, by decide +kernel⟩

end Python

end ConceptInventory
