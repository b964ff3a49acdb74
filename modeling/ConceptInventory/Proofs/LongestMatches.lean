import ConceptInventory.Proofs.SurroundingGaps

/-!
# The match of a rule is the longest

A rule prefers its matches in an order of its own: the left branch of a choice, one round
more of a repetition, and for keywords only where the word ends. For every rule of the two
grammars but one the match it finds at a place is nevertheless the longest text of its
language there. The one is the rule for block comments, which ends at the first close.
-/
namespace ConceptInventory

variable {κ : Type}

/-! ## What a rule may match at a place -/

/-- On one side of a place, and not on the other, stands a word character. -/
def IsWordBoundary (text : List Char) (i : Nat) : Prop :=
  (text.take i).getLast?.any isWordCharacter ≠ (text.drop i).head?.any isWordCharacter

/-- Two texts at one place of one length are the same. -/
theorem eq_of_prefix_of_length {s m n : List Char} (hm : m <+: s) (hn : n <+: s)
    (h : m.length = n.length) : m = n :=
  (List.prefix_of_prefix_length_le hm hn h.le).eq_of_length h

namespace LexRule

/-- The text the rule matches at a place of a text. -/
def match? (r : LexRule κ) (text : List Char) (p : Nat) : Option (List Char) :=
  (r.rest? (.of (text.drop p))).map fun t => (text.drop p).take ((text.drop p).length - t.size)

/-- A text stands at the place and is of the language of the rule. A rule for keywords needs
a word boundary at its end. -/
structure Admits (r : LexRule κ) (text : List Char) (p : Nat) (m : List Char) : Prop where
  stands : m <+: text.drop p
  covers : r.pattern.Covers m
  boundary : r.wholeWord = true → IsWordBoundary text (p + m.length)

/-- The rule matches where there is something to match, and then the longest. -/
structure MatchesLongest (r : LexRule κ) : Prop where
  isSome_iff : ∀ text p, (r.match? text p).isSome = true ↔ ∃ m, r.Admits text p m
  eq_some_iff : ∀ text p m, r.match? text p = some m
    ↔ r.Admits text p m ∧ ∀ n, r.Admits text p n → n.length ≤ m.length

/-- All that a rule for keywords matches ends in a word character. -/
def EndsInWord (r : LexRule κ) : Prop :=
  r.wholeWord = true → ∀ m, r.pattern.Covers m → ∃ c, m.getLast? = some c ∧ isWordCharacter c = true

/-! ## Rests and matched texts -/

theorem match?_eq_some_iff {r : LexRule κ} {text m : List Char} {p : Nat} :
    r.match? text p = some m
      ↔ ∃ t, text.drop p = m ++ t ∧ r.rest? (.of (text.drop p)) = some (.of t) := by
  rw [match?, Option.map_eq_some_iff]
  constructor
  · rintro ⟨t, ht, rfl⟩
    obtain ⟨m, hm, _⟩ := rest?_eq_append ht
    refine ⟨t.chars, ?_, by rw [ht, Rest.of_chars]⟩
    rw [t.size_eq, hm, List.length_append, Nat.add_sub_cancel, List.take_left]
  · rintro ⟨t, hm, ht⟩
    refine ⟨_, ht, ?_⟩
    rw [hm, Rest.size_of, List.length_append, Nat.add_sub_cancel, List.take_left]

/-- Behind a text that ends in a word character the word ends at a boundary. -/
theorem isWordBoundary_iff {text m t : List Char} {p : Nat} (hm : text.drop p = m ++ t) {c : Char}
    (hlast : m.getLast? = some c) (hc : isWordCharacter c = true) :
    IsWordBoundary text (p + m.length) ↔ atWordEnd t = true := by
  have htake : (text.take (p + m.length)).getLast? = some c := by
    rw [List.take_add, hm, List.take_left, List.getLast?_append, hlast, Option.some_or]
  have hdrop : text.drop (p + m.length) = t := by
    rw [← List.drop_drop, hm, List.drop_left]
  rw [IsWordBoundary, htake, hdrop, Option.any_some, hc]
  cases t <;> simp [atWordEnd]

theorem admits_iff {r : LexRule κ} (h : r.EndsInWord) {text m : List Char} {p : Nat} :
    r.Admits text p m ↔ ∃ t, text.drop p = m ++ t ∧ r.MayTake m t := by
  constructor
  · rintro ⟨⟨t, ht⟩, hcovers, hboundary⟩
    refine ⟨t, ht.symm, hcovers, ?_⟩
    cases hword : r.wholeWord with
    | false => simp [endsAt, hword]
    | true =>
      obtain ⟨c, hlast, hc⟩ := h hword m hcovers
      simpa [endsAt, hword] using (isWordBoundary_iff ht.symm hlast hc).mp (hboundary hword)
  · rintro ⟨t, ht, hcovers, hends⟩
    refine ⟨⟨t, ht.symm⟩, hcovers, fun hword => ?_⟩
    obtain ⟨c, hlast, hc⟩ := h hword m hcovers
    exact (isWordBoundary_iff ht hlast hc).mpr (by simpa [endsAt, hword] using hends)

theorem isSome_rest?_iff (r : LexRule κ) (s : List Char) :
    (r.rest? (.of s)).isSome = true ↔ ∃ m t, s = m ++ t ∧ r.MayTake m t := by
  rw [rest?_eq_find?, Option.isSome_map, List.find?_isSome]
  constructor
  · rintro ⟨t, ht, hends⟩
    obtain ⟨m, hm, hcovers⟩ := Pattern.mem_rests_iff.mp ht
    exact ⟨m, t, hm, hcovers, hends⟩
  · rintro ⟨m, t, hm, hcovers, hends⟩
    exact ⟨t, Pattern.mem_rests_iff.mpr ⟨m, hm, hcovers⟩, hends⟩

/-- The rests are tried from the shortest on, so the first that may stand behind the match
belongs to the longest text that may be matched. -/
theorem longest_of_rest? {r : LexRule κ} (h : r.pattern.LongestFirst) {s m t : List Char}
    (hm : s = m ++ t) (ht : r.rest? (.of s) = some (.of t)) :
    r.MayTake m t ∧ ∀ n u, s = n ++ u → r.MayTake n u → n.length ≤ m.length := by
  rw [rest?_eq_find?, Option.map_eq_some_iff] at ht
  obtain ⟨t', hfind, htt⟩ := ht
  obtain rfl : t' = t := congrArg Rest.chars htt
  obtain ⟨hends, before, after, hrests, hbefore⟩ := List.find?_eq_some_iff_append.mp hfind
  have hsorted := h s
  rw [hrests, List.pairwise_append, List.pairwise_cons] at hsorted
  obtain ⟨n, hn, hcovers⟩ := Pattern.covers_of_mem_rests (List.mem_of_find?_eq_some hfind)
  obtain rfl : n = m := List.append_cancel_right (hn.symm.trans hm)
  refine ⟨⟨hcovers, hends⟩, ?_⟩
  rintro k u hk ⟨hkcovers, hkends⟩
  have hlength : k.length + u.length = n.length + t'.length := by
    rw [← List.length_append, ← List.length_append, ← hk, hm]
  have hu : u ∈ before ++ t' :: after := hrests ▸ Pattern.mem_rests_iff.mpr ⟨k, hk, hkcovers⟩
  rcases List.mem_append.mp hu with hu | hu
  · exact absurd hkends (by simpa using hbefore u hu)
  · rcases List.mem_cons.mp hu with rfl | hu
    · omega
    · have hlt := hsorted.2.1.1 u hu
      omega

theorem matchesLongest {r : LexRule κ} (h : r.pattern.LongestFirst) (hends : r.EndsInWord) :
    r.MatchesLongest := by
  have hsome : ∀ text p, (r.match? text p).isSome = true ↔ ∃ m, r.Admits text p m := by
    intro text p
    rw [match?, Option.isSome_map, isSome_rest?_iff]
    constructor
    · rintro ⟨m, t, hm, htake⟩
      exact ⟨m, (admits_iff hends).mpr ⟨t, hm, htake⟩⟩
    · rintro ⟨m, hm⟩
      obtain ⟨t, hm, htake⟩ := (admits_iff hends).mp hm
      exact ⟨m, t, hm, htake⟩
  have hlongest : ∀ text p m, r.match? text p = some m →
      r.Admits text p m ∧ ∀ n, r.Admits text p n → n.length ≤ m.length := by
    intro text p m hmatch
    obtain ⟨t, hm, ht⟩ := match?_eq_some_iff.mp hmatch
    obtain ⟨htake, hmax⟩ := longest_of_rest? h hm ht
    refine ⟨(admits_iff hends).mpr ⟨t, hm, htake⟩, fun n hn => ?_⟩
    obtain ⟨u, hu, hnu⟩ := (admits_iff hends).mp hn
    exact hmax n u hu hnu
  refine ⟨hsome, fun text p m => ⟨hlongest text p m, ?_⟩⟩
  rintro ⟨hm, hmax⟩
  obtain ⟨n, hn⟩ := Option.isSome_iff_exists.mp ((hsome text p).mpr ⟨m, hm⟩)
  obtain ⟨hadmits, hlonger⟩ := hlongest text p n hn
  have hlength : n.length = m.length := Nat.le_antisymm (hmax n hadmits) (hlonger m hm)
  rw [hn, eq_of_prefix_of_length hadmits.stands hm.stands hlength]

/-- The rule matches all of a text of its language in front of a character it never takes. -/
def MatchesWhole (r : LexRule κ) : Prop :=
  ∀ before m after, r.pattern.Covers m →
    (∀ c, after.head? = some c → r.pattern.avoids c = true) →
    r.match? (before ++ m ++ after) before.length = some m

/-- The rule matches all of a text of its language and no more, whatever comes behind it. -/
def MatchesClosed (r : LexRule κ) : Prop :=
  ∀ before m after, r.pattern.Covers m → r.match? (before ++ m ++ after) before.length = some m

/-- Where a rule may end anywhere, a text no longer one goes beyond is the match. -/
theorem MatchesLongest.match?_append {r : LexRule κ} (h : r.MatchesLongest)
    (hword : r.wholeWord = false) {m after : List Char} (hm : r.pattern.Covers m)
    (hmax : ∀ n, n <+: m ++ after → r.pattern.Covers n → n.length ≤ m.length)
    (before : List Char) : r.match? (before ++ m ++ after) before.length = some m := by
  have hdrop : (before ++ m ++ after).drop before.length = m ++ after := by
    rw [List.append_assoc, List.drop_left]
  rw [h.eq_some_iff]
  constructor
  · exact ⟨hdrop ▸ List.prefix_append m after, hm, by simp [hword]⟩
  · rintro n ⟨hn, hcovers, _⟩
    exact hmax n (hdrop ▸ hn) hcovers

theorem MatchesLongest.matchesWhole {r : LexRule κ} (h : r.MatchesLongest)
    (hword : r.wholeWord = false) : r.MatchesWhole := by
  intro before m after hm hnext
  refine h.match?_append hword hm (fun n hn hcovers => ?_) before
  by_contra hlt
  -- a longer text holds the character that comes next
  obtain ⟨u, rfl⟩ : m <+: n :=
    List.prefix_of_prefix_length_le (List.prefix_append m after) hn (by omega)
  cases u with
  | nil => simp at hlt
  | cons c u =>
    obtain ⟨t, ht⟩ := (List.prefix_append_right_inj m).mp hn
    have havoids := hnext c (by rw [← ht]; rfl)
    rw [hcovers.avoids_eq_false (by simp)] at havoids
    cases havoids

theorem MatchesLongest.matchesClosed {r : LexRule κ} (h : r.MatchesLongest)
    (hword : r.wholeWord = false) (hcoarse : r.pattern.Coarse)
    (hlongest : r.pattern.takesLongest = true) (hdet : r.pattern.determined = true) :
    r.MatchesClosed := by
  intro before m after hm
  refine h.match?_append hword hm (fun n hn hcovers => ?_) before
  rw [Pattern.eq_of_determined hcoarse hlongest hdet hm hcovers (List.prefix_append m after) hn]

end LexRule

/-! ## Keywords end in a word character -/

namespace Pattern

theorem isCoarse_ends {p : Pattern} (h : p.Coarse) : IsCoarse p.ends := by
  induction p with
  | empty => exact isCoarse_const false
  | one ok => exact h
  | seq p q ihp ihq => exact (ihq h.2).or ((isCoarse_const q.nullable).and (ihp h.1))
  | alt p q ihp ihq => exact (ihp h.1).or (ihq h.2)
  | many p ih => exact ih h
  | fewest p ih => exact ih h

theorem coarse_choice {ws : List String} (h : ∀ w ∈ ws, IsAscii w.toList) : (choice ws).Coarse := by
  induction ws with
  | nil => exact isCoarse_const false
  | cons w ws ih =>
    have hw : (lit w).Coarse := coarse_lit (h w List.mem_cons_self)
    cases ws with
    | nil => exact hw
    | cons v ws => exact ⟨hw, ih fun u hu => h u (List.mem_cons_of_mem w hu)⟩

end Pattern

theorem isWordCharacter_of_isWordPart {c : Char} (h : isWordPart c = true) :
    isWordCharacter c = true := by
  have hascii : c.toNat < 0x80 := by
    by_contra hc
    have hout := isCoarse_isWordPart c
    rw [standIn, if_neg hc, h] at hout
    exact absurd hout (by decide)
  rw [isWordCharacter, if_pos hascii, h]

/-- Such rules are told by the characters their texts may end with. -/
theorem Grammar.endsInWord {g : Grammar κ}
    (hcoarse : ∀ r ∈ g.rules, r.wholeWord = true → r.pattern.Coarse)
    (hnull : ∀ r ∈ g.rules, r.pattern.nullable = false)
    (hends : (g.rules.all fun r => !r.wholeWord
      || alphabet.all fun c => !r.pattern.ends c || isWordPart c) = true) :
    ∀ r ∈ g.rules, r.EndsInWord := by
  intro r hr hword m hm
  obtain ⟨d, rest, rfl, _⟩ := hm.exists_cons (hnull r hr)
  obtain ⟨c, hc⟩ : ∃ c, (d :: rest).getLast? = some c := ⟨_, List.getLast?_cons⟩
  have hclass : IsCoarse fun c => !r.pattern.ends c || isWordPart c :=
    (Pattern.isCoarse_ends (hcoarse r hr hword)).not.or isCoarse_isWordPart
  have hall := List.all_eq_true.mp hends r hr
  have hpart := hclass.of_all (by simpa [hword] using hall) c
  rw [hm.ends_of_getLast? hc] at hpart
  exact ⟨c, hc, isWordCharacter_of_isWordPart (by simpa using hpart)⟩

/-! ## The rules of the C family -/

namespace CFamily

open Pattern

/-- A block comment with a text between its opening and a close. -/
def closedComment (body : List Char) : List Char := "/*".toList ++ body ++ "*/".toList

/-- The rule matches from an opening to the first close behind it. -/
structure EndsAtFirstClose (r : LexRule Kind) : Prop where
  isSome_iff : ∀ text p, (r.match? text p).isSome = true
    ↔ ∃ body, closedComment body <+: text.drop p
  eq_some_iff : ∀ text p m, r.match? text p = some m
    ↔ ∃ body, m = closedComment body ∧ m <+: text.drop p
      ∧ ∀ other, closedComment other <+: text.drop p → body.length ≤ other.length

theorem closedComment_prefix_iff {body s : List Char} :
    closedComment body <+: s ↔ "/*".toList <+: s ∧ body ++ "*/".toList <+: s.drop 2 := by
  constructor
  · rintro ⟨t, rfl⟩
    constructor
    · exact ⟨body ++ "*/".toList ++ t, by simp [closedComment]⟩
    · exact ⟨t, by simp [closedComment]⟩
  · rintro ⟨⟨u, rfl⟩, t, ht⟩
    obtain rfl : body ++ "*/".toList ++ t = u := ht
    exact ⟨t, by simp [closedComment]⟩

/-- No close begins in front of the first. -/
theorem length_le_of_first {body other t : List Char} (hno : ¬"*/".toList <:+: body ++ ['*'])
    (hother : other ++ "*/".toList <+: body ++ "*/".toList ++ t) :
    body.length ≤ other.length := by
  by_contra hlt
  have hfront : other ++ "*/".toList <+: body ++ ['*'] := by
    refine List.prefix_of_prefix_length_le hother ⟨'/' :: t, by simp⟩ ?_
    simp only [List.length_append, List.length_singleton]
    have hclose : "*/".toList.length = 2 := rfl
    omega
  exact hno ((List.suffix_append other _).isInfix.trans hfront.isInfix)

theorem closedComment_of_match? {text m : List Char} {p : Nat}
    (h : blockCommentRule.match? text p = some m) :
    ∃ body, m = closedComment body ∧ m <+: text.drop p
      ∧ ∀ other, closedComment other <+: text.drop p → body.length ≤ other.length := by
  obtain ⟨t, hm, ht⟩ := LexRule.match?_eq_some_iff.mp h
  rw [rest?_blockCommentRule] at ht
  by_cases hopen : "/*".toList <+: text.drop p
  · rw [if_pos hopen, Option.map_eq_some_iff] at ht
    obtain ⟨t', ht, htt⟩ := ht
    obtain rfl : t' = t := congrArg Rest.chars htt
    obtain ⟨body, hbody, hno⟩ := exists_body_of_behindClose ht
    obtain ⟨u, hu⟩ := hopen
    have hdrop : (text.drop p).drop 2 = u := by rw [← hu]; rfl
    have hwhole : text.drop p = closedComment body ++ t' := by
      rw [closedComment, List.append_assoc, List.append_assoc, ← List.append_assoc body, ← hbody,
        hdrop, hu]
    obtain rfl : m = closedComment body := List.append_cancel_right (hm.symm.trans hwhole)
    refine ⟨body, rfl, ⟨t', hm.symm⟩, fun other hother => ?_⟩
    obtain ⟨_, hclose⟩ := closedComment_prefix_iff.mp hother
    rw [hbody] at hclose
    exact length_le_of_first hno hclose
  · rw [if_neg hopen] at ht
    cases ht

theorem isSome_match?_blockCommentRule {text body : List Char} {p : Nat}
    (h : closedComment body <+: text.drop p) :
    (blockCommentRule.match? text p).isSome = true := by
  obtain ⟨hopen, hclose⟩ := closedComment_prefix_iff.mp h
  have hin : "*/".toList <:+: (text.drop p).drop 2 :=
    (List.suffix_append body _).isInfix.trans hclose.isInfix
  rw [LexRule.match?, Option.isSome_map, rest?_blockCommentRule, if_pos hopen, Option.isSome_map]
  exact (behindClose_isSome_iff _).mpr hin

theorem blockComment_endsAtFirstClose : EndsAtFirstClose blockCommentRule where
  isSome_iff text p := by
    constructor
    · intro h
      obtain ⟨m, hm⟩ := Option.isSome_iff_exists.mp h
      obtain ⟨body, rfl, hstands, _⟩ := closedComment_of_match? hm
      exact ⟨body, hstands⟩
    · rintro ⟨body, hbody⟩
      exact isSome_match?_blockCommentRule hbody
  eq_some_iff text p m := by
    refine ⟨closedComment_of_match?, ?_⟩
    rintro ⟨body, rfl, hstands, hfirst⟩
    obtain ⟨n, hn⟩ := Option.isSome_iff_exists.mp (isSome_match?_blockCommentRule hstands)
    obtain ⟨body', rfl, hstands', hfirst'⟩ := closedComment_of_match? hn
    have hbody : body'.length = body.length :=
      Nat.le_antisymm (hfirst' body hstands) (hfirst body' hstands')
    have hlength : (closedComment body').length = (closedComment body).length := by
      simp only [closedComment, List.length_append, hbody]
    rw [hn, eq_of_prefix_of_length hstands' hstands hlength]

/-- The rules for numbers and for strings. -/
def literalRules : List (LexRule Kind) := [numberRule, stringRule]

theorem coarse_keyword {r : LexRule Kind} (hr : r ∈ grammar.rules) (hword : r.wholeWord = true) :
    r.pattern.Coarse := by
  have hwords : ∀ e ∈ wordFamilies, ∀ w ∈ e.1, IsAscii w.toList := by decide
  have hdirectives : ∀ w ∈ directives, IsAscii w.toList := by decide
  rw [rules_eq, frontRules] at hr
  simp only [fixedRules, familyRules, List.mem_append, List.mem_map, List.mem_cons,
    List.not_mem_nil, or_false] at hr
  rcases hr with (⟨e, _, rfl⟩ | ⟨e, he, rfl⟩ | rfl | rfl | rfl | rfl | rfl | rfl) | rfl | rfl
  · cases hword
  · rcases mem_keywordFamilies.mp he with ⟨p, hp, rfl⟩ | ⟨f, hf, rfl⟩
    · exact coarse_phrases p hp
    · exact coarse_choice (hwords f hf)
  · exact ⟨isCoarse_beq (by decide), coarse_choice hdirectives⟩
  all_goals cases hword

theorem endsInWord : ∀ r ∈ grammar.rules, r.EndsInWord :=
  Grammar.endsInWord (fun _ hr => coarse_keyword hr) separable.nullable (by decide +kernel)

theorem matchesLongest {r : LexRule Kind} (hr : r ∈ grammar.rules) (hne : r ≠ blockCommentRule) :
    r.MatchesLongest := by
  apply LexRule.matchesLongest _ (endsInWord r hr)
  rcases mem_rules hr with hr | rfl | rfl | rfl
  · exact longestFirst_of_mem hr
  · exact (longestFirst_many_one isGap).one_seq isGap
  · exact takesLines.longestFirst
  · exact (hne rfl).elim

theorem literals_mem {r : LexRule Kind} (hr : r ∈ literalRules) :
    r ∈ grammar.rules ∧ r ≠ blockCommentRule ∧ r.wholeWord = false := by
  simp only [literalRules, List.mem_cons, List.not_mem_nil, or_false] at hr
  rcases hr with rfl | rfl
  · have hne : numberRule ≠ blockCommentRule := fun h => by cases congrArg LexRule.kind h
    exact ⟨by simp [rules_eq, frontRules], hne, rfl⟩
  · have hne : stringRule ≠ blockCommentRule := fun h => by cases congrArg LexRule.kind h
    exact ⟨by simp [rules_eq, frontRules], hne, rfl⟩

theorem literals_matchWhole {r : LexRule Kind} (hr : r ∈ literalRules) :
    r ∈ grammar.rules ∧ r.MatchesWhole := by
  obtain ⟨hmem, hne, hword⟩ := literals_mem hr
  exact ⟨hmem, (matchesLongest hmem hne).matchesWhole hword⟩

theorem strings_matchClosed : stringRule.MatchesClosed := by
  obtain ⟨hmem, hne, hword⟩ := literals_mem (r := stringRule) (by simp [literalRules])
  exact (matchesLongest hmem hne).matchesClosed hword coarse_stringLiteral (by decide) (by decide)

end CFamily

/-! ## The rules of Python -/

namespace Python

open Pattern

/-- The rules for written values and for calls. -/
def literalRules : List (LexRule Kind) := valueRules ++ [stringRule, callRule]

/-- Of these the rules for values that end with a sign of their own. -/
def closedRules : List (LexRule Kind) :=
  [.folded list .kwList, .folded tuple .kwTuple, .folded dict .kwDict, stringRule, callRule]

theorem coarse_keyword {r : LexRule Kind} (hr : r ∈ grammar.rules) (hword : r.wholeWord = true) :
    r.pattern.Coarse := by
  rw [rules_eq, frontRules] at hr
  simp only [fixedRules, familyRules, valueRules, List.mem_append, List.mem_map, List.mem_cons,
    List.not_mem_nil, or_false] at hr
  rcases hr with (⟨e, _, rfl⟩ | ⟨e, he, rfl⟩ | ⟨e, _, rfl⟩ | rfl | rfl | rfl | rfl) | rfl
  · cases hword
  · exact coarse_families e he
  all_goals cases hword

theorem endsInWord : ∀ r ∈ grammar.rules, r.EndsInWord :=
  Grammar.endsInWord (fun _ hr => coarse_keyword hr) separable.nullable (by decide +kernel)

theorem matchesLongest {r : LexRule Kind} (hr : r ∈ grammar.rules) : r.MatchesLongest := by
  apply LexRule.matchesLongest _ (endsInWord r hr)
  rcases mem_rules hr with hr | rfl | rfl
  · exact longestFirst_of_mem hr
  · exact (longestFirst_many_one isGap).one_seq isGap
  · exact takesLines.longestFirst

theorem literals_mem {r : LexRule Kind} (hr : r ∈ literalRules) :
    r ∈ grammar.rules ∧ r.wholeWord = false := by
  simp only [literalRules, valueRules, List.mem_append, List.mem_map, List.mem_cons,
    List.not_mem_nil, or_false] at hr
  rcases hr with ⟨e, he, rfl⟩ | rfl | rfl
  · refine ⟨?_, rfl⟩
    rw [rules_eq, frontRules]
    simp only [valueRules, List.mem_append]
    exact .inl (.inr (.inr (.inl (List.mem_map_of_mem he))))
  · exact ⟨by simp [rules_eq, frontRules], rfl⟩
  · exact ⟨by simp [rules_eq, frontRules], rfl⟩

theorem literals_matchWhole {r : LexRule Kind} (hr : r ∈ literalRules) :
    r ∈ grammar.rules ∧ r.MatchesWhole := by
  obtain ⟨hmem, hword⟩ := literals_mem hr
  exact ⟨hmem, (matchesLongest hmem).matchesWhole hword⟩

theorem closedRules_coarse {r : LexRule Kind} (hr : r ∈ closedRules) : r.pattern.Coarse := by
  simp only [closedRules, List.mem_cons, List.not_mem_nil, or_false] at hr
  rcases hr with rfl | rfl | rfl | rfl | rfl
  · exact coarse_values (list, .kwList) (by simp [valuePatterns])
  · exact coarse_values (tuple, .kwTuple) (by simp [valuePatterns])
  · exact coarse_values (dict, .kwDict) (by simp [valuePatterns])
  · exact coarse_string
  · exact coarse_call

theorem closed_matchClosed {r : LexRule Kind} (hr : r ∈ closedRules) :
    r ∈ literalRules ∧ r.MatchesClosed := by
  have hliteral : r ∈ literalRules := by
    simp only [closedRules, List.mem_cons, List.not_mem_nil, or_false] at hr
    simp only [literalRules, valueRules, valuePatterns, List.map_cons, List.map_nil,
      List.mem_append, List.mem_cons, List.not_mem_nil, or_false]
    tauto
  have hall : (closedRules.all fun r => r.pattern.takesLongest && r.pattern.determined) = true := by
    decide +kernel
  obtain ⟨hlongest, hdet⟩ := Bool.and_eq_true_iff.mp (List.all_eq_true.mp hall r hr)
  obtain ⟨hmem, hword⟩ := literals_mem hliteral
  exact ⟨hliteral, (matchesLongest hmem).matchesClosed hword (closedRules_coarse hr) hlongest hdet⟩

end Python

/-- Where a rule of a grammar matches, its language has a text, and it matches the longest
one, but for the rule for block comments, which stops at the first close. So numbers, strings
and the written values and calls of Python are matched whole; those that end with a sign of
their own are so whatever comes behind them. -/
theorem rules_match_longest :
    (∀ r ∈ CFamily.grammar.rules, r ≠ CFamily.blockCommentRule → r.MatchesLongest)
    ∧ (∀ r ∈ Python.grammar.rules, r.MatchesLongest)
    ∧ CFamily.blockCommentRule ∈ CFamily.grammar.rules
    ∧ CFamily.EndsAtFirstClose CFamily.blockCommentRule
    ∧ (∀ r ∈ CFamily.literalRules, r ∈ CFamily.grammar.rules ∧ r.MatchesWhole)
    ∧ (∀ r ∈ Python.literalRules, r ∈ Python.grammar.rules ∧ r.MatchesWhole)
    ∧ CFamily.stringRule.MatchesClosed
    ∧ ∀ r ∈ Python.closedRules, r ∈ Python.literalRules ∧ r.MatchesClosed := by
  have hcomment : CFamily.blockCommentRule ∈ CFamily.grammar.rules := by
    simp [CFamily.rules_eq, CFamily.frontRules, CFamily.blockCommentRule]
  exact ⟨fun _ hr hne => CFamily.matchesLongest hr hne, fun _ hr => Python.matchesLongest hr,
    hcomment, CFamily.blockComment_endsAtFirstClose, fun _ hr => CFamily.literals_matchWhole hr,
    fun _ hr => Python.literals_matchWhole hr, CFamily.strings_matchClosed,
    fun _ hr => Python.closed_matchClosed hr⟩

/-- A hexadecimal number with a suffix, of which the digit in front is a number too; and a
tuple in front of a parenthesis. -/
theorem rules_match_longest_at_digits :
    CFamily.numberRule ∈ CFamily.grammar.rules
      ∧ CFamily.numberRule ≠ CFamily.blockCommentRule
      ∧ CFamily.numberRule.MatchesLongest
      ∧ CFamily.numberRule.match? "x = 0x1Fu;".toList 4 = some "0x1Fu".toList
      ∧ Python.callRule ∈ Python.grammar.rules
      ∧ Python.callRule.MatchesLongest
      ∧ (LexRule.folded Python.tuple Python.Kind.kwTuple).match? "f((a, 1))".toList 2
        = some "(a, 1)".toList := by
  have hliteral : CFamily.numberRule ∈ CFamily.literalRules := List.mem_cons_self
  have htupleRule : .folded Python.tuple .kwTuple ∈ Python.closedRules := by
    simp [Python.closedRules]
  obtain ⟨hmem, hne, _⟩ := CFamily.literals_mem hliteral
  have hcall : Python.callRule ∈ Python.grammar.rules :=
    (Python.literals_mem (by simp [Python.literalRules])).1
  have hnumber : CFamily.number.Covers "0x1Fu".toList := by
    obtain ⟨m, hm, hcovers⟩ := Pattern.covers_of_mem_rests (p := CFamily.number)
      (s := "0x1Fu".toList) (t := []) (by decide)
    rwa [hm, List.append_nil]
  have htuple : Python.tuple.Covers "(a, 1)".toList := by
    obtain ⟨m, hm, hcovers⟩ := Pattern.covers_of_mem_rests (p := Python.tuple)
      (s := "(a, 1)".toList) (t := []) (by decide)
    rwa [hm, List.append_nil]
  have hnext : ∀ c, ";".toList.head? = some c → CFamily.number.avoids c = true := by
    rintro c hc
    obtain rfl : ';' = c := Option.some.inj hc
    decide
  obtain ⟨hc, hpy, _, _, hwhole, _, _, hclosed⟩ := rules_match_longest
  refine ⟨hmem, hne, hc _ hmem hne, ?_, hcall, hpy _ hcall, ?_⟩
  · exact (hwhole _ hliteral).2 "x = ".toList _ ";".toList hnumber hnext
  · exact (hclosed _ htupleRule).2 "f(".toList _ ")".toList htuple

end ConceptInventory
