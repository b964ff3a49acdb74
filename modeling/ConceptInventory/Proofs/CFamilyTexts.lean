import ConceptInventory.Grammars.Lexicons
import ConceptInventory.Proofs.Lexicons

/-!
# Printed tokens of the C family

The texts a token of the C family can be printed as, and that each of them is
cut off by a form feed. A form feed is only taken by strings, by comments and
by the rule for gaps. A printed token does not start a comment or a gap, and of
a string the closing quote is settled by the text. The words among them are what
the lexicon says, which counts wherever a word stands.
-/
namespace ConceptInventory.CFamily

open Pattern

/-! ## The rules -/

def isGap : Char → Bool := " \t\x0c\x0b".toList.contains

def fixedRules : List (LexRule Kind) := spellings.map fun e => .fixed e.1 e.2

def familyRules : List (LexRule Kind) := keywordFamilies.map fun e => .keyword e.1 e.2

def directiveRule : LexRule Kind := ⟨directive, true, some .directive, true⟩

def identifierRule : LexRule Kind := .kept identifier .identifier

def numberRule : LexRule Kind := .kept number .number

def stringRule : LexRule Kind := .kept stringLiteral .stringLiteral

def lineEndRule : LexRule Kind := .folded (plus (oneOf "\r\n")) .lineBreak

/-- The rules with a kind that cover more than one text, strings apart. -/
def patternRules : List (LexRule Kind) :=
  familyRules ++ [directiveRule, identifierRule, numberRule, lineEndRule]

/-- The rules with a kind, strings apart. -/
def plainRules : List (LexRule Kind) := fixedRules ++ patternRules

/-- The rules in front of that for gaps. -/
def frontRules : List (LexRule Kind) :=
  fixedRules ++ (familyRules ++ [directiveRule, identifierRule, numberRule, stringRule,
    .dropped lineComment, .dropped blockComment])

theorem rules_eq : grammar.rules = frontRules ++ Grammar.gapRule isGap :: [lineEndRule] := by
  simp only [frontRules, List.append_assoc]
  rfl

theorem mem_rules {r : LexRule Kind} (hr : r ∈ grammar.rules) :
    r ∈ stringRule :: plainRules ∨ r = Grammar.gapRule isGap
      ∨ r = .dropped lineComment ∨ r = .dropped blockComment := by
  simp only [rules_eq, frontRules, List.mem_append, List.mem_cons, List.not_mem_nil,
    or_false] at hr
  simp only [plainRules, patternRules, List.mem_append, List.mem_cons, List.not_mem_nil, or_false]
  tauto

/-- Where comments start. -/
def openers : List String := ["//", "/*"]

/-- Gaps and quotes; no token that is no string starts at one of these. -/
def closed : List Char := " \t\x0c\x0b\"'".toList

theorem plainRules_closed {r : LexRule Kind} (hr : r ∈ plainRules) :
    r.pattern.avoids '\x0c' = true ∧ ∀ c ∈ closed, r.pattern.starts c = false := by
  have hall : (plainRules.all fun r => r.pattern.avoids '\x0c'
      && closed.all fun c => !r.pattern.starts c) = true := by decide
  simpa only [Bool.and_eq_true, Bool.not_eq_true', List.all_eq_true] using
    List.all_eq_true.mp hall r hr

theorem starts_stringLiteral {c : Char} :
    stringLiteral.starts c = true ↔ c = '"' ∨ c = '\'' := by
  simp [stringLiteral, quoted, inOrder, char, starts, nullable]

theorem isGap_iff {c : Char} :
    isGap c = true ↔ c = ' ' ∨ c = '\t' ∨ c = '\x0c' ∨ c = '\x0b' := by
  simp [isGap]

/-- Of the rules with a kind only some for fixed texts start with a slash, and none of
those texts starts like a comment. -/
theorem not_opener {r : LexRule Kind} (hr : r ∈ stringRule :: plainRules) {s : List Char}
    (hs : r.pattern.Covers s) : ∀ w ∈ openers, ¬w.toList <+: s := by
  have hfixed : ∀ e ∈ spellings, ∀ w ∈ openers, ¬w.toList <+: e.1.toList := by decide +kernel
  have hothers : ((stringRule :: patternRules).all fun r => !r.pattern.starts '/') = true := by
    decide
  have hslash : ∀ w ∈ openers, w.toList.head? = some '/' := by decide
  intro w hw hpre
  obtain ⟨t, rfl⟩ := hpre
  have hmem : r ∈ fixedRules ∨ r ∈ stringRule :: patternRules := by
    rcases List.mem_cons.mp hr with rfl | hr
    · exact .inr List.mem_cons_self
    · exact (List.mem_append.mp hr).imp_right (List.mem_cons_of_mem _)
  rcases hmem with hmem | hmem
  · obtain ⟨e, he, rfl⟩ := List.mem_map.mp hmem
    apply hfixed e he w hw
    rw [← covers_lit.mp hs]
    exact List.prefix_append _ _
  · obtain ⟨rest, hrest⟩ := List.head?_eq_some_iff.mp (hslash w hw)
    rw [hrest] at hs
    exact not_covers_cons (by simpa using List.all_eq_true.mp hothers r hmem) _ hs

/-! ## The longest match -/

theorem coarse_number : number.Coarse := by
  simp (disch := decide) [number, inOrder, plus, opt, char, oneOf, digits, exponent, Coarse,
    isCoarse_beq, isCoarse_contains, isCoarse_isDigit, isCoarse_isHexDigit]

theorem coarse_quoted {q : Char} (hq : q.toNat < 0x80) : (quoted q).Coarse := by
  have hplain : IsCoarse fun c => c != q && c != '\\' && c != '\n' :=
    ((isCoarse_bne hq).and (isCoarse_bne (by decide))).and (isCoarse_bne (by decide))
  exact ⟨isCoarse_beq hq, ⟨hplain, isCoarse_beq (by decide), isCoarse_bne (by decide)⟩,
    isCoarse_beq hq, trivial⟩

theorem coarse_stringLiteral : stringLiteral.Coarse :=
  ⟨coarse_quoted (by decide), coarse_quoted (by decide)⟩

theorem coarse_phrases : ∀ e ∈ phrases, (words e.1).Coarse := by
  simp (disch := decide) [phrases, words, plus, oneOf, coarse_lit, Coarse, isCoarse_contains]

theorem families_longestFirst : ∀ e ∈ keywordFamilies, e.1.LongestFirst := by
  have hphrases : ∀ e ∈ phrases, (words e.1).takesLongest = true := by decide
  have hwords : ∀ e ∈ wordFamilies, e.1.Pairwise fun v w => ¬v.toList <+: w.toList := by
    decide
  intro e he
  rcases mem_keywordFamilies.mp he with ⟨p, hp, rfl⟩ | ⟨f, hf, rfl⟩
  · exact longestFirst_of_takesLongest (coarse_phrases p hp) (hphrases p hp)
  · exact longestFirst_choice (hwords f hf)

/-- Every rule with a kind takes the longest match. -/
theorem longestFirst_of_mem {r : LexRule Kind} (hr : r ∈ stringRule :: plainRules) :
    r.pattern.LongestFirst := by
  simp only [plainRules, patternRules, fixedRules, familyRules, List.mem_append, List.mem_map,
    List.mem_cons, List.not_mem_nil, or_false] at hr
  rcases hr with rfl | ⟨e, _, rfl⟩ | ⟨e, he, rfl⟩ | rfl | rfl | rfl | rfl
  · exact longestFirst_of_takesLongest coarse_stringLiteral (by decide)
  · exact longestFirst_lit e.1
  · exact families_longestFirst e he
  · exact (longestFirst_choice (by decide)).one_seq _
  · exact longestFirst_of_takesLongest ⟨isCoarse_isWordStart, isCoarse_isWordPart⟩
      (by decide)
  · exact longestFirst_of_takesLongest coarse_number (by decide)
  · have hcoarse : IsCoarse "\r\n".toList.contains := isCoarse_contains (by decide)
    exact longestFirst_of_takesLongest ⟨hcoarse, hcoarse⟩ (by decide)

/-! ## Words -/

/-- The rules that match nothing that starts with a letter, the signs spelled out apart. -/
def wordlessRules : List (LexRule Kind) :=
  [directiveRule, numberRule, stringRule, lineEndRule, Grammar.gapRule isGap,
    .dropped lineComment, .dropped blockComment]

theorem not_covers_word {r : LexRule Kind} (hr : r ∈ wordlessRules) {m : List Char}
    (hm : StartsWord m) : ¬r.pattern.Covers m := by
  have hall : (wordlessRules.all fun r => wordStarts.all fun c => !r.pattern.starts c) = true := by
    decide
  exact hm.not_covers (List.all_eq_true.mp hall r hr)

theorem longer_not_word {r : LexRule Kind} (hr : r ∈ lexicon.longer) {m : List Char}
    (hm : r.pattern.Covers m) : ¬m.all isWordPart = true := by
  have hall : ∀ e ∈ phrases, ((words e.1).marked fun c => !isWordPart c) = true := by
    decide
  obtain ⟨e, he, rfl⟩ := List.mem_map.mp hr
  exact not_all_isWordPart (coarse_phrases e he) (hall e he) hm

theorem rules_eq_lexicon : grammar.rules = lexicon.spellings.map (fun e => .fixed e.1 e.2)
    ++ (lexicon.longer ++ (lexicon.families.map (fun e => .keyword (choice e.1) e.2)
      ++ ([directiveRule] ++ lexicon.identifierRule :: [numberRule, stringRule,
        .dropped lineComment, .dropped blockComment, Grammar.gapRule isGap, lineEndRule]))) := by
  simp only [← List.append_assoc]
  rfl

theorem mem_rules_cases {r : LexRule Kind} (hr : r ∈ grammar.rules) :
    r ∈ wordlessRules ∨ r ∈ lexicon.longer ∨ r = lexicon.identifierRule
      ∨ (∃ e ∈ lexicon.spellings, .fixed e.1 e.2 = r)
      ∨ ∃ e ∈ lexicon.families, .keyword (choice e.1) e.2 = r := by
  simp only [rules_eq_lexicon, List.mem_append, List.mem_cons, List.not_mem_nil, or_false,
    List.mem_map] at hr
  rcases hr with hr | hr | hr | rfl | rfl | hr
  · exact .inr (.inr (.inr (.inl hr)))
  · exact .inr (.inl hr)
  · exact .inr (.inr (.inr (.inr hr)))
  · exact .inl (by simp [wordlessRules])
  · exact .inr (.inr (.inl rfl))
  · left
    rcases hr with rfl | rfl | rfl | rfl | rfl | rfl <;> simp [wordlessRules]

/-- Of the rules that letters start only those for phrases match what is no word. -/
theorem isWord_of_rule {r : LexRule Kind} (hr : r ∈ grammar.rules) {m : List Char}
    (hm : StartsWord m) (hcovers : r.pattern.Covers m) : r ∈ lexicon.longer ∨ IsWord m := by
  have hspellings : ∀ e ∈ lexicon.spellings, StartsWord e.1.toList → IsWord e.1.toList := by
    decide +kernel
  have hfamilies : ∀ e ∈ lexicon.families, ∀ v ∈ e.1, IsWord v.toList := by decide
  rcases mem_rules_cases hr with hr | hr | rfl | ⟨e, he, rfl⟩ | ⟨e, he, rfl⟩
  · exact (not_covers_word hr hm hcovers).elim
  · exact .inl hr
  · exact .inr (isWord_of_covers hcovers)
  · obtain rfl := covers_lit.mp hcovers
    exact .inr (hspellings e he hm)
  · obtain ⟨v, hv, rfl⟩ := covers_choice.mp hcovers
    exact .inr (hfamilies e he v hv)

theorem governs : lexicon.Governs grammar where
  rules := by
    refine ⟨_, _, _, rules_eq_lexicon, ?_, ?_⟩
    · exact fun r hr w hw hcovers => longer_not_word hr hcovers hw.all
    · intro r hr w hw
      rw [List.mem_singleton.mp hr]
      exact not_covers_word List.mem_cons_self hw.startsWord
  longer_mem r hr := by simp [rules_eq_lexicon, hr]
  longer_not_word _ hr _ hm := longer_not_word hr hm
  word _ hr _ hm hcovers := isWord_of_rule hr hm hcovers
  longestFirst r hr m hm hcovers := by
    rcases mem_rules hr with hr | rfl | rfl | rfl
    · exact longestFirst_of_mem hr
    · exact (not_covers_word (by simp [wordlessRules]) hm hcovers).elim
    · exact (not_covers_word (by simp [wordlessRules]) hm hcovers).elim
    · exact (not_covers_word (by simp [wordlessRules]) hm hcovers).elim

/-- A word is reserved if it is a keyword with nothing behind it. -/
theorem not_isReserved_iff {w : List Char} (hw : IsWord w) :
    ¬IsReserved spellings keywordFamilies w ↔ lexicon.keyword? w [] = none := by
  rw [Lexicon.keyword?_nil_eq_none]
  constructor
  · intro hno
    refine ⟨fun e he hspelled => hno (.inl ⟨e, he, hspelled.symm⟩), fun e he v hv hspelled => ?_⟩
    exact hno (.inr ⟨_, mem_keywordFamilies.mpr (.inr ⟨e, he, rfl⟩),
      covers_choice.mpr ⟨v, hv, hspelled.symm⟩⟩)
  · rintro ⟨hspellings, hfamilies⟩ (⟨e, he, rfl⟩ | ⟨e, he, hcovers⟩)
    · exact hspellings e he rfl
    · rcases mem_keywordFamilies.mp he with ⟨p, hp, rfl⟩ | ⟨f, hf, rfl⟩
      · exact longer_not_word (List.mem_map.mpr ⟨p, hp, rfl⟩) hcovers hw.all
      · obtain ⟨v, hv, rfl⟩ := covers_choice.mp hcovers
        exact hfamilies f hf v hv rfl

/-! ## The separator -/

theorem skips : grammar.Skips isGap := by
  have hall : ((frontRules ++ [lineEndRule]).all fun q =>
      " \t\x0c\x0b".toList.all fun c => !q.pattern.starts c) = true := by decide
  refine ⟨frontRules, [lineEndRule], rules_eq, ?_⟩
  intro q hq c hc
  have hmem : c ∈ " \t\x0c\x0b".toList := List.contains_iff_mem.mp hc
  simpa using List.all_eq_true.mp (List.all_eq_true.mp hall q hq) c hmem

theorem separates : grammar.Separates '\x0c' isGap := skips.separates (by decide)

theorem separable : grammar.Separable '\x0c' isGap plainRules stringRule openers where
  separates := separates
  no_word := by decide
  nullable := by
    have hall : (grammar.rules.all fun r => !r.pattern.nullable) = true := by decide
    simpa only [List.all_eq_true, Bool.not_eq_true'] using hall
  kinds := by
    have hall : (grammar.rules.all fun r => r.kind != some .unrecognized) = true := by
      decide
    intro r hr
    have hr' : r.kind ≠ some .unrecognized := by simpa using List.all_eq_true.mp hall r hr
    exact hr'
  rules r hr := by
    rcases mem_rules hr with hr | rfl | rfl | rfl
    · exact .inl hr
    · exact .inr (.inl rfl)
    · exact .inr (.inr ⟨rfl, "//", by decide, fun m hm => covers_lit_seq hm⟩)
    · exact .inr (.inr ⟨rfl, "/*", by decide, fun m hm => covers_lit_seq hm⟩)
  longestFirst _ hr := longestFirst_of_mem hr
  no_gap r hr c hc := by
    rcases List.mem_cons.mp hr with rfl | hr
    · rw [Bool.eq_false_iff]
      intro hstarts
      rcases starts_stringLiteral.mp hstarts with rfl | rfl <;> cases hc
    · apply (plainRules_closed hr).2
      rcases isGap_iff.mp hc with rfl | rfl | rfl | rfl <;> decide
  no_comment _ hr _ hs := not_opener hr hs
  avoids _ hr := (plainRules_closed hr).1
  no_string r hr c hc := by
    apply (plainRules_closed hr).2
    rcases starts_stringLiteral.mp hc with rfl | rfl <;> decide
  settled m n s hm hn := eq_of_determined coarse_stringLiteral (by decide)
    (by decide) hm hn
  openers_avoid := by decide
  openers_alone := by decide

/-! ## Printed tokens -/

/-- The texts a token can be printed as. A token without text is printed as any text
that a rule for its kind covers as a whole and no earlier rule does; the others are
printed as they read. -/
inductive Printed : List Char → Token Kind → Prop
  | bare {s : List Char} {k : Kind} (h : grammar.wholeToken? s = some (.bare k)) :
      Printed s (.bare k)
  | identifier {s : List Char} (hw : IsWord s) (hr : ¬IsReserved spellings keywordFamilies s) :
      Printed s ⟨.identifier, some (String.ofList s)⟩
  | number {s : List Char} (h : number.Covers s) : Printed s ⟨.number, some (String.ofList s)⟩
  | stringLiteral {s : List Char} (h : stringLiteral.Covers s) :
      Printed s ⟨.stringLiteral, some (String.ofList s)⟩
  | directive {s : List Char} (h : ∃ d ∈ directives, s = '#' :: d.toList) :
      Printed s ⟨.directive, some (String.ofList s)⟩
  | unrecognized {c : Char} (hdouble : c ≠ '"') (hsingle : c ≠ '\'')
      (h : grammar.tokenize (String.singleton c)
        = [⟨.unrecognized, some (String.singleton c)⟩]) :
      Printed [c] ⟨.unrecognized, some (String.ofList [c])⟩

theorem wholeToken?_identifier {s : List Char} (hw : IsWord s)
    (hs : ¬IsReserved spellings keywordFamilies s) :
    grammar.wholeToken? s = some ⟨.identifier, some (String.ofList s)⟩ := by
  rw [governs.wholeToken?_word hw, Lexicon.token, (not_isReserved_iff hw).mp hs]
  rfl

theorem mem_of_starts_number {c : Char} (hc : number.starts c = true) :
    c ∈ "0123456789.".toList := by
  have hfirst : IsCoarse fun c => !number.starts c || "0123456789.".toList.contains c :=
    (isCoarse_starts coarse_number).not.or (isCoarse_contains (by decide))
  simpa [hc] using hfirst.of_all (by decide) c

/-- No number is a fixed text, and no other rule in front starts like one. -/
theorem wholeToken?_number {s : List Char} (h : number.Covers s) :
    grammar.wholeToken? s = some ⟨.number, some (String.ofList s)⟩ := by
  have hrules : grammar.rules = (fixedRules ++ (familyRules ++ [directiveRule, identifierRule]))
      ++ numberRule :: [stringRule, .dropped lineComment, .dropped blockComment,
        Grammar.gapRule isGap, lineEndRule] := by simp [rules_eq, frontRules]
  have hfixed : ∀ e ∈ spellings, ¬number.Covers e.1.toList := by decide +kernel
  have hothers : ((familyRules ++ [directiveRule, identifierRule]).all fun b =>
      "0123456789.".toList.all fun c => !b.pattern.starts c) = true := by decide
  apply Grammar.wholeToken?_eq hrules h
  intro b hb hcovers
  rcases List.mem_append.mp hb with hb | hb
  · obtain ⟨e, he, rfl⟩ := List.mem_map.mp hb
    rw [covers_lit.mp hcovers] at h
    exact hfixed e he h
  · obtain ⟨c, rest, rfl, hc⟩ := h.exists_cons (by decide)
    have hstarts := List.all_eq_true.mp (List.all_eq_true.mp hothers b hb) c
      (mem_of_starts_number hc)
    exact not_covers_cons (by simpa using hstarts) rest hcovers

theorem wholeToken?_string {s : List Char} (h : stringLiteral.Covers s) :
    grammar.wholeToken? s = some ⟨.stringLiteral, some (String.ofList s)⟩ := by
  have hrules : grammar.rules = (fixedRules ++ (familyRules ++ [directiveRule, identifierRule,
      numberRule])) ++ stringRule :: [.dropped lineComment, .dropped blockComment,
        Grammar.gapRule isGap, lineEndRule] := by simp [rules_eq, frontRules]
  apply Grammar.wholeToken?_eq hrules h
  intro b hb hcovers
  have hplain : b ∈ plainRules := by
    simp only [plainRules, patternRules, List.mem_append, List.mem_cons, List.not_mem_nil,
      or_false] at hb ⊢
    tauto
  obtain ⟨c, rest, rfl, hc⟩ := h.exists_cons (by decide)
  have hclosed : c ∈ closed := by
    rcases starts_stringLiteral.mp hc with rfl | rfl <;> decide
  exact not_covers_cons ((plainRules_closed hplain).2 c hclosed) rest hcovers

theorem wholeToken?_directive {s : List Char} (h : ∃ d ∈ directives, s = '#' :: d.toList) :
    grammar.wholeToken? s = some ⟨.directive, some (String.ofList s)⟩ := by
  obtain ⟨d, hd, rfl⟩ := h
  have hrules : grammar.rules = (fixedRules ++ familyRules) ++ directiveRule
      :: [identifierRule, numberRule, stringRule, .dropped lineComment, .dropped blockComment,
        Grammar.gapRule isGap, lineEndRule] := by simp [rules_eq, frontRules]
  have hothers : ((fixedRules ++ familyRules).all fun b => !b.pattern.starts '#') = true := by
    decide
  have hcovers : directive.Covers ('#' :: d.toList) :=
    .seq (s := ['#']) (.one rfl) (covers_choice.mpr ⟨d, hd, rfl⟩)
  apply Grammar.wholeToken?_eq hrules hcovers
  intro b hb
  exact not_covers_cons (by simpa using List.all_eq_true.mp hothers b hb) _

/-- Whatever a token is printed as is cut off by separators and gives the token. -/
theorem Printed.holds {s : List Char} {t : Token Kind} (h : Printed s t) :
    grammar.Holds '\x0c' isGap s t := by
  cases h with
  | bare h => exact separable.holds_of_wholeToken? h
  | identifier hw hs => exact separable.holds_of_wholeToken? (wholeToken?_identifier hw hs)
  | number h => exact separable.holds_of_wholeToken? (wholeToken?_number h)
  | stringLiteral h => exact separable.holds_of_wholeToken? (wholeToken?_string h)
  | directive h => exact separable.holds_of_wholeToken? (wholeToken?_directive h)
  | unrecognized hdouble hsingle h =>
    apply separable.holds_of_unrecognized _ h
    rw [Bool.eq_false_iff]
    intro hstarts
    exact (starts_stringLiteral.mp hstarts).elim hdouble hsingle

end ConceptInventory.CFamily
