import ConceptInventory.Grammars.Lexicons
import ConceptInventory.Proofs.Lexicons

/-!
# Printed tokens of Python

The texts a token of Python can be printed as, and that each of them is cut off
by a form feed. A form feed is only taken by strings, by comments and by the
rule for gaps; no printed token starts like a comment or a gap. The preferred
match of an imaginary number is not read off its pattern as it stands, but off
the choice that its optional front amounts to. What words are the lexicon says:
written values do not start like a word, and a call has a parenthesis.
-/
namespace ConceptInventory.Python

open Pattern

/-! ## The rules -/

def isGap : Char → Bool := " \t\r\n\x0c\x0b".toList.contains

def fixedRules : List (LexRule Kind) := spellings.map fun e => .fixed e.1 e.2

def familyRules : List (LexRule Kind) := keywordFamilies.map fun e => .keyword e.1 e.2

/-- The patterns of written values that are no strings. -/
def valuePatterns : List (Pattern × Kind) :=
  [(float, .kwFloat), (int, .kwInt), (complex, .kwComplex), (list, .kwList), (tuple, .kwTuple),
    (dict, .kwDict)]

def valueRules : List (LexRule Kind) := valuePatterns.map fun e => .folded e.1 e.2

def stringRule : LexRule Kind := .folded string .kwStr

def callRule : LexRule Kind := .folded call .functionCall

def identifierRule : LexRule Kind := .kept identifier .identifier

/-- The rules with a kind, strings apart. -/
def plainRules : List (LexRule Kind) :=
  fixedRules ++ (familyRules ++ (valueRules ++ [callRule, identifierRule]))

/-- The rules in front of that for gaps. -/
def frontRules : List (LexRule Kind) :=
  fixedRules ++ (familyRules ++ (valueRules ++ [stringRule, callRule, identifierRule,
    .dropped comment]))

theorem rules_eq : grammar.rules = frontRules ++ [Grammar.gapRule isGap] := by
  simp only [frontRules, List.append_assoc]
  rfl

theorem mem_rules {r : LexRule Kind} (hr : r ∈ grammar.rules) :
    r ∈ stringRule :: plainRules ∨ r = Grammar.gapRule isGap ∨ r = .dropped comment := by
  simp only [rules_eq, frontRules, List.mem_append, List.mem_cons, List.not_mem_nil,
    or_false] at hr
  simp only [plainRules, List.mem_append, List.mem_cons, List.not_mem_nil, or_false]
  tauto

/-- Gaps, quotes and the sign of a comment; no token that is no string starts at one of
these. -/
def closed : List Char := " \t\r\n\x0c\x0b\"'#".toList

theorem plainRules_closed {r : LexRule Kind} (hr : r ∈ plainRules) :
    r.pattern.avoids '\x0c' = true ∧ ∀ c ∈ closed, r.pattern.starts c = false := by
  have hall : (plainRules.all fun r => r.pattern.avoids '\x0c'
      && closed.all fun c => !r.pattern.starts c) = true := by decide
  simpa only [Bool.and_eq_true, Bool.not_eq_true', List.all_eq_true] using
    List.all_eq_true.mp hall r hr

theorem starts_string {c : Char} : string.starts c = true ↔ c = '"' ∨ c = '\'' := by
  simp [string, quoted, inOrder, char, starts, nullable]

theorem isGap_iff {c : Char} : isGap c = true
    ↔ c = ' ' ∨ c = '\t' ∨ c = '\r' ∨ c = '\n' ∨ c = '\x0c' ∨ c = '\x0b' := by
  simp [isGap]

/-- No token starts with the sign of a comment. -/
theorem starts_sign {r : LexRule Kind} (hr : r ∈ stringRule :: plainRules) :
    r.pattern.starts '#' = false := by
  rcases List.mem_cons.mp hr with rfl | hr
  · decide
  · exact (plainRules_closed hr).2 '#' (by decide)

/-! ## The longest match -/

theorem isCoarse_isListPart : IsCoarse isListPart :=
  ((isCoarse_isWordPart.or (isCoarse_beq (by decide))).or (isCoarse_beq (by decide))).or
    (isCoarse_beq (by decide))

theorem coarse_values : ∀ e ∈ valuePatterns, e.1.Coarse := by
  have hhex : IsCoarse fun c => isHexDigit c || c == '_' :=
    isCoarse_isHexDigit.or (isCoarse_beq (by decide))
  have hdigit : IsCoarse fun c => isDigit c || c == '_' :=
    isCoarse_isDigit.or (isCoarse_beq (by decide))
  have htuple : IsCoarse fun c => isWordPart c || c == '.' || c == ' ' :=
    (isCoarse_isWordPart.or (isCoarse_beq (by decide))).or (isCoarse_beq (by decide))
  have hdict : IsCoarse fun c => isListPart c || c == ':' :=
    isCoarse_isListPart.or (isCoarse_beq (by decide))
  simp (disch := decide) [valuePatterns, float, int, complex, list, tuple, dict, inOrder, plus,
    opt, char, oneOf, digits, Coarse, isCoarse_beq, isCoarse_contains, isCoarse_isDigit,
    isCoarse_isListPart, hhex, hdigit, htuple, hdict]

theorem coarse_call : call.Coarse := by
  have hpart : IsCoarse fun c => isWordPart c || c == ',' || c == ' ' :=
    (isCoarse_isWordPart.or (isCoarse_beq (by decide))).or (isCoarse_beq (by decide))
  exact ⟨⟨isCoarse_isWordPart, isCoarse_isWordPart⟩, isCoarse_beq (by decide), hpart,
    isCoarse_beq (by decide), trivial⟩

theorem coarse_quoted {q : Char} (hq : q.toNat < 0x80) : (quoted q).Coarse := by
  have hplain : IsCoarse fun c => c != q && c != '\\' :=
    (isCoarse_bne hq).and (isCoarse_bne (by decide))
  exact ⟨isCoarse_beq hq, ⟨hplain, isCoarse_beq (by decide), isCoarse_const true⟩,
    isCoarse_beq hq, trivial⟩

theorem coarse_string : string.Coarse := ⟨coarse_quoted (by decide), coarse_quoted (by decide)⟩

/-- With a whole part and its point in front of the digits, or without them. -/
theorem complex_longestFirst : complex.LongestFirst := by
  have hcoarse : complex.Coarse := coarse_values (complex, .kwComplex) (by simp [valuePatterns])
  let front : Pattern := seq (many (one isDigit)) (char '.')
  let back : Pattern := inOrder [digits, oneOf "jJ"]
  have hchoice : (alt (seq front back) back).LongestFirst :=
    longestFirst_of_takesLongest ⟨⟨hcoarse.1.1, hcoarse.2⟩, hcoarse.2⟩ (by decide)
  intro s
  have hrests : complex.rests s = (alt (seq front back) back).rests s := rests_opt_seq front back s
  rw [hrests]
  exact hchoice s

theorem values_longestFirst : ∀ e ∈ valuePatterns, e.1.LongestFirst := by
  have hothers : ∀ e ∈ valuePatterns, e.2 ≠ .kwComplex → e.1.LongestFirst := by
    have hall : ∀ e ∈ valuePatterns, e.2 ≠ .kwComplex → e.1.takesLongest = true := by
      decide
    intro e he hne
    exact longestFirst_of_takesLongest (coarse_values e he) (hall e he hne)
  simp only [valuePatterns, List.forall_mem_cons] at hothers ⊢
  obtain ⟨hfloat, hint, _, hlist, htuple, hdict, _⟩ := hothers
  exact ⟨hfloat (by decide), hint (by decide), complex_longestFirst, hlist (by decide),
    htuple (by decide), hdict (by decide), by simp⟩

theorem coarse_families : ∀ e ∈ keywordFamilies, e.1.Coarse := by
  simp (disch := decide) [keywordFamilies, twoWords, inOrder, plus, oneOf, coarse_lit, Coarse,
    isCoarse_contains]

theorem families_longestFirst : ∀ e ∈ keywordFamilies, e.1.LongestFirst := by
  have hall : ∀ e ∈ keywordFamilies, e.1.takesLongest = true := by decide
  intro e he
  exact longestFirst_of_takesLongest (coarse_families e he) (hall e he)

/-- Every rule with a kind takes the longest match. -/
theorem longestFirst_of_mem {r : LexRule Kind} (hr : r ∈ stringRule :: plainRules) :
    r.pattern.LongestFirst := by
  simp only [plainRules, fixedRules, familyRules, valueRules, List.mem_append, List.mem_map,
    List.mem_cons, List.not_mem_nil, or_false] at hr
  rcases hr with rfl | ⟨e, _, rfl⟩ | ⟨e, he, rfl⟩ | ⟨e, he, rfl⟩ | rfl | rfl
  · exact longestFirst_of_takesLongest coarse_string (by decide)
  · exact longestFirst_lit e.1
  · exact families_longestFirst e he
  · exact values_longestFirst e he
  · exact longestFirst_of_takesLongest coarse_call (by decide)
  · exact longestFirst_of_takesLongest ⟨isCoarse_isWordStart, isCoarse_isWordPart⟩
      (by decide)

/-! ## Words -/

/-- The rules that match nothing that starts with a letter, the signs spelled out apart. -/
def wordlessRules : List (LexRule Kind) :=
  .keyword (lit "@final") .finalMark :: .keyword (lit "@overload") .overloadMark
    :: (valueRules ++ [stringRule, .dropped comment, Grammar.gapRule isGap])

theorem not_covers_word {r : LexRule Kind} (hr : r ∈ wordlessRules) {m : List Char}
    (hm : StartsWord m) : ¬r.pattern.Covers m := by
  have hall : (wordlessRules.all fun r => wordStarts.all fun c => !r.pattern.starts c) = true := by
    decide
  exact hm.not_covers (List.all_eq_true.mp hall r hr)

theorem families_not_word {r : LexRule Kind} (hr : r ∈ familyRules) {m : List Char}
    (hm : r.pattern.Covers m) : ¬m.all isWordPart = true := by
  have hall : ∀ e ∈ keywordFamilies, (e.1.marked fun c => !isWordPart c) = true := by
    decide
  obtain ⟨e, he, rfl⟩ := List.mem_map.mp hr
  exact not_all_isWordPart (coarse_families e he) (hall e he) hm

theorem longer_not_word {r : LexRule Kind} (hr : r ∈ lexicon.longer) {m : List Char}
    (hm : r.pattern.Covers m) : ¬m.all isWordPart = true := by
  simp only [lexicon, List.mem_cons, List.not_mem_nil, or_false] at hr
  rcases hr with rfl | rfl | rfl
  · exact families_not_word (by simp [familyRules, keywordFamilies]) hm
  · exact families_not_word (by simp [familyRules, keywordFamilies]) hm
  · exact not_all_isWordPart coarse_call (by decide) hm

theorem rules_eq_lexicon : grammar.rules = lexicon.spellings.map (fun e => .fixed e.1 e.2)
    ++ (familyRules ++ (lexicon.families.map (fun e => .keyword (choice e.1) e.2)
      ++ ((valueRules ++ [stringRule, callRule]) ++ lexicon.identifierRule
        :: [.dropped comment, Grammar.gapRule isGap]))) := by
  simp only [← List.append_assoc]
  rfl

theorem mem_rules_cases {r : LexRule Kind} (hr : r ∈ grammar.rules) :
    r ∈ wordlessRules ∨ r ∈ lexicon.longer ∨ r = lexicon.identifierRule
      ∨ ∃ e ∈ lexicon.spellings, .fixed e.1 e.2 = r := by
  have hnone : lexicon.families = [] := rfl
  simp only [rules_eq_lexicon, hnone, List.map_nil, List.mem_append, List.mem_cons,
    List.not_mem_nil, or_false, false_or, List.mem_map] at hr
  rcases hr with hr | hr | (hr | rfl | rfl) | rfl | hr
  · exact .inr (.inr (.inr hr))
  · simp only [familyRules, keywordFamilies, List.map_cons, List.map_nil, List.mem_cons,
      List.not_mem_nil, or_false] at hr
    rcases hr with rfl | rfl | rfl | rfl <;> simp [wordlessRules, lexicon]
  · exact .inl (by simp [wordlessRules, hr])
  · exact .inl (by simp [wordlessRules])
  · exact .inr (.inl (by simp [lexicon, callRule]))
  · exact .inr (.inr (.inl rfl))
  · left
    rcases hr with rfl | rfl <;> simp [wordlessRules]

/-- Of the rules that letters start only those for phrases and calls match what is no word. -/
theorem isWord_of_rule {r : LexRule Kind} (hr : r ∈ grammar.rules) {m : List Char}
    (hm : StartsWord m) (hcovers : r.pattern.Covers m) : r ∈ lexicon.longer ∨ IsWord m := by
  have hspellings : ∀ e ∈ lexicon.spellings, StartsWord e.1.toList → IsWord e.1.toList := by
    decide
  rcases mem_rules_cases hr with hr | hr | rfl | ⟨e, he, rfl⟩
  · exact (not_covers_word hr hm hcovers).elim
  · exact .inl hr
  · exact .inr (isWord_of_covers hcovers)
  · obtain rfl := covers_lit.mp hcovers
    exact .inr (hspellings e he hm)

theorem governs : lexicon.Governs grammar where
  rules := by
    refine ⟨_, _, _, rules_eq_lexicon, ?_, ?_⟩
    · exact fun r hr w hw hcovers => families_not_word hr hcovers hw.all
    · intro r hr w hw hcovers
      simp only [List.mem_append, List.mem_cons, List.not_mem_nil, or_false] at hr
      rcases hr with hr | rfl | rfl
      · exact not_covers_word (by simp [wordlessRules, hr]) hw.startsWord hcovers
      · exact not_covers_word (by simp [wordlessRules]) hw.startsWord hcovers
      · exact longer_not_word (by simp [lexicon, callRule]) hcovers hw.all
  longer_mem r hr := by
    simp only [lexicon, List.mem_cons, List.not_mem_nil, or_false] at hr
    rcases hr with rfl | rfl | rfl <;>
      simp [rules_eq_lexicon, familyRules, keywordFamilies, callRule]
  longer_not_word _ hr _ hm := longer_not_word hr hm
  word _ hr _ hm hcovers := isWord_of_rule hr hm hcovers
  longestFirst r hr m hm hcovers := by
    rcases mem_rules hr with hr | rfl | rfl
    · exact longestFirst_of_mem hr
    · exact (not_covers_word (by simp [wordlessRules]) hm hcovers).elim
    · exact (not_covers_word (by simp [wordlessRules]) hm hcovers).elim

/-- A word is reserved if it is a keyword with nothing behind it. -/
theorem not_isReserved_iff {w : List Char} (hw : IsWord w) :
    ¬IsReserved spellings keywordFamilies w ↔ lexicon.keyword? w [] = none := by
  rw [Lexicon.keyword?_nil_eq_none]
  constructor
  · intro hno
    exact ⟨fun e he hspelled => hno (.inl ⟨e, he, hspelled.symm⟩), by simp [lexicon]⟩
  · rintro ⟨hspellings, _⟩ (⟨e, he, rfl⟩ | ⟨e, he, hcovers⟩)
    · exact hspellings e he rfl
    · exact families_not_word (List.mem_map.mpr ⟨e, he, rfl⟩) hcovers hw.all

/-! ## The separator -/

theorem skips : grammar.Skips isGap := by
  have hall : ((frontRules ++ []).all fun q =>
      " \t\r\n\x0c\x0b".toList.all fun c => !q.pattern.starts c) = true := by decide
  refine ⟨frontRules, [], rules_eq, ?_⟩
  intro q hq c hc
  have hmem : c ∈ " \t\r\n\x0c\x0b".toList := List.contains_iff_mem.mp hc
  simpa using List.all_eq_true.mp (List.all_eq_true.mp hall q hq) c hmem

theorem separates : grammar.Separates '\x0c' isGap := skips.separates (by decide)

theorem sign_prefix_of_comment {m : List Char} (hm : comment.Covers m) : "#".toList <+: m := by
  obtain ⟨c, rest, rfl, hc⟩ := hm.exists_cons (by decide)
  obtain rfl : c = '#' := by
    simpa [comment, char, starts, nullable] using hc
  exact ⟨rest, rfl⟩

theorem separable : grammar.Separable '\x0c' isGap plainRules stringRule ["#"] where
  separates := separates
  no_word := by decide
  nullable := by
    have hall : (grammar.rules.all fun r => !r.pattern.nullable) = true := by decide
    simpa only [List.all_eq_true, Bool.not_eq_true'] using hall
  kinds := by
    have hall : (grammar.rules.all fun r => r.kind != some .unrecognized) = true := by
      decide
    intro r hr
    have hr' : r.kind ≠ some .unrecognized := by simpa using List.all_eq_true.mp hall r hr
    exact hr'
  rules r hr := by
    rcases mem_rules hr with hr | rfl | rfl
    · exact .inl hr
    · exact .inr (.inl rfl)
    · exact .inr (.inr ⟨rfl, "#", by decide, fun m hm => sign_prefix_of_comment hm⟩)
  longestFirst _ hr := longestFirst_of_mem hr
  no_gap r hr c hc := by
    rcases List.mem_cons.mp hr with rfl | hr
    · rw [Bool.eq_false_iff]
      intro hstarts
      rcases starts_string.mp hstarts with rfl | rfl <;> cases hc
    · apply (plainRules_closed hr).2
      rcases isGap_iff.mp hc with rfl | rfl | rfl | rfl | rfl | rfl <;> decide
  no_comment r hr s hs := by
    intro w hw hpre
    rw [List.mem_singleton.mp hw] at hpre
    obtain ⟨rest, rfl⟩ := hpre
    exact not_covers_cons (starts_sign hr) rest hs
  avoids _ hr := (plainRules_closed hr).1
  no_string r hr c hc := by
    apply (plainRules_closed hr).2
    rcases starts_string.mp hc with rfl | rfl <;> decide
  settled m n s hm hn := eq_of_determined coarse_string (by decide)
    (by decide) hm hn
  openers_avoid := by decide
  openers_alone := by
    intro w hw
    rw [List.mem_singleton.mp hw]
    exact .inr ⟨.dropped comment, by simp [rules_eq, frontRules], by decide⟩

/-! ## Printed tokens -/

/-- The texts a token can be printed as. A token without text is printed as any text
that a rule for its kind covers as a whole and no earlier rule does; the others are
printed as they read. -/
inductive Printed : List Char → Token Kind → Prop
  | bare {s : List Char} {k : Kind} (h : grammar.wholeToken? s = some (.bare k)) :
      Printed s (.bare k)
  | identifier {s : List Char} (hw : IsWord s) (hr : ¬IsReserved spellings keywordFamilies s) :
      Printed s ⟨.identifier, some (String.ofList s)⟩
  | unrecognized {c : Char} (hdouble : c ≠ '"') (hsingle : c ≠ '\'')
      (h : grammar.tokenize (String.singleton c)
        = [⟨.unrecognized, some (String.singleton c)⟩]) :
      Printed [c] ⟨.unrecognized, some (String.ofList [c])⟩

theorem wholeToken?_identifier {s : List Char} (hw : IsWord s)
    (hs : ¬IsReserved spellings keywordFamilies s) :
    grammar.wholeToken? s = some ⟨.identifier, some (String.ofList s)⟩ := by
  rw [governs.wholeToken?_word hw, Lexicon.token, (not_isReserved_iff hw).mp hs]
  rfl

/-- Whatever a token is printed as is cut off by separators and gives the token. -/
theorem Printed.holds {s : List Char} {t : Token Kind} (h : Printed s t) :
    grammar.Holds '\x0c' isGap s t := by
  cases h with
  | bare h => exact separable.holds_of_wholeToken? h
  | identifier hw hs => exact separable.holds_of_wholeToken? (wholeToken?_identifier hw hs)
  | unrecognized hdouble hsingle h =>
    apply separable.holds_of_unrecognized _ h
    rw [Bool.eq_false_iff]
    intro hstarts
    exact (starts_string.mp hstarts).elim hdouble hsingle

end ConceptInventory.Python
