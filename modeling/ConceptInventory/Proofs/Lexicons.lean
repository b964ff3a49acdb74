import ConceptInventory.Lexis.Lexicon
import ConceptInventory.Proofs.SeparatedTexts
import Mathlib.Data.List.TakeWhile

/-!
# Lexicons

When a lexicon tells what a grammar makes of words. The rules that match a word have to be
those of the lexicon, in its order, and whatever else starts with a word has to be matched
by the rules the lexicon lists for that. Then the first rule that may take a word in front
of a text makes of it the token the lexicon has, in front of nothing as well.
-/
namespace ConceptInventory

variable {κ : Type}

/-! ## Words at the front -/

theorem isPrefix_frontWord (s : List Char) : frontWord s <+: s := List.takeWhile_prefix _

theorem prefix_frontWord_of_all {m s : List Char} (hm : m <+: s) (hall : m.all isWordPart = true) :
    m <+: frontWord s := by
  obtain ⟨t, rfl⟩ := hm
  rw [frontWord, List.takeWhile_append_of_pos (List.all_eq_true.mp hall)]
  exact List.prefix_append _ _

theorem frontWord_append_cons {m : List Char} (hall : m.all isWordPart = true) {c : Char}
    (hc : isWordPart c = false) (s : List Char) : frontWord (m ++ c :: s) = m := by
  rw [frontWord, List.takeWhile_append_of_pos (List.all_eq_true.mp hall),
    List.takeWhile_cons_of_neg (by simp [hc]), List.append_nil]

theorem StartsWord.isWord_frontWord {s : List Char} (h : StartsWord s) :
    IsWord (frontWord s) := by
  obtain ⟨c, rest, rfl, hc⟩ := h
  rw [frontWord, List.takeWhile_cons_of_pos (isWordPart_of_isWordStart hc)]
  exact ⟨hc, List.all_takeWhile⟩

theorem StartsWord.of_prefix {s m : List Char} (h : StartsWord s) (hm : m <+: s)
    (hne : m ≠ []) : StartsWord m := by
  obtain ⟨c, rest, rfl, hc⟩ := h
  cases m with
  | nil => exact (hne rfl).elim
  | cons d m =>
    obtain ⟨rfl, _⟩ := List.cons_prefix_cons.mp hm
    exact ⟨d, m, rfl, hc⟩

theorem IsWord.startsWord {s : List Char} (h : IsWord s) : StartsWord s := h.exists_cons

theorem isWord_of_covers {m : List Char}
    (h : (Pattern.seq (.one isWordStart) (.many (.one isWordPart))).Covers m) : IsWord m := by
  cases h with
  | seq hc hrest =>
    cases hc with
    | one hc =>
      refine ⟨hc, List.all_eq_true.mpr fun d hd => ?_⟩
      simpa [Pattern.avoids] using hrest.avoids_eq_false hd

/-! ## The first rule that may take a text -/

instance (r : LexRule κ) (m t : List Char) : Decidable (r.MayTake m t) :=
  decidable_of_iff (r.pattern.Covers m ∧ r.endsAt t = true)
    ⟨fun h => ⟨h.1, h.2⟩, fun h => ⟨h.covers, h.ends⟩⟩

def Grammar.firstRule? (g : Grammar κ) (m t : List Char) : Option (LexRule κ) :=
  g.rules.find? fun r => decide (r.MayTake m t)

/-! ## Lexicons -/

namespace Lexicon

def identifierRule (l : Lexicon κ) : LexRule κ :=
  .kept (.seq (.one isWordStart) (.many (.one isWordPart))) l.identifier

/-- The rules of the grammar that match a word are those of the lexicon, in its order; whatever
else starts with a word is matched by the rules the lexicon lists for that, and is no word. -/
structure Governs (l : Lexicon κ) (g : Grammar κ) : Prop where
  rules : ∃ front middle behind, g.rules = l.spellings.map (fun e => .fixed e.1 e.2)
      ++ (front ++ (l.families.map (fun e => .keyword (.choice e.1) e.2)
        ++ (middle ++ l.identifierRule :: behind)))
    ∧ (∀ r ∈ front, ∀ w, IsWord w → ¬r.pattern.Covers w)
    ∧ ∀ r ∈ middle, ∀ w, IsWord w → ¬r.pattern.Covers w
  longer_mem : ∀ r ∈ l.longer, r ∈ g.rules
  longer_not_word : ∀ r ∈ l.longer, ∀ m, r.pattern.Covers m → ¬m.all isWordPart = true
  word : ∀ r ∈ g.rules, ∀ m, StartsWord m → r.pattern.Covers m → r ∈ l.longer ∨ IsWord m
  longestFirst : ∀ r ∈ g.rules, ∀ m, StartsWord m → r.pattern.Covers m → r.pattern.LongestFirst

variable {l : Lexicon κ} {g : Grammar κ} {w : List Char}

theorem find?_spellings (l : Lexicon κ) (w t : List Char) :
    (l.spellings.map fun e => LexRule.fixed e.1 e.2).find? (fun r => decide (r.MayTake w t))
      = (l.spellings.find? fun e => e.1.toList == w).map fun e => .fixed e.1 e.2 := by
  rw [List.find?_map]
  congr 2
  funext e
  rw [Bool.eq_iff_iff, Function.comp_apply, decide_eq_true_iff, beq_iff_eq]
  exact ⟨fun htake => (Pattern.covers_lit.mp htake.covers).symm,
    fun he => ⟨Pattern.covers_lit.mpr he.symm, rfl⟩⟩

theorem find?_families (l : Lexicon κ) (w t : List Char) :
    (l.families.map fun e => LexRule.keyword (.choice e.1) e.2).find?
        (fun r => decide (r.MayTake w t))
      = if atWordEnd t then (l.families.find? fun e => e.1.any fun v => v.toList == w).map
          fun e => .keyword (.choice e.1) e.2 else none := by
  by_cases ht : atWordEnd t = true
  · rw [if_pos ht, List.find?_map]
    congr 2
    funext e
    rw [Bool.eq_iff_iff, Function.comp_apply, decide_eq_true_iff, List.any_eq_true]
    constructor
    · intro htake
      obtain ⟨v, hv, hw⟩ := Pattern.covers_choice.mp htake.covers
      exact ⟨v, hv, beq_iff_eq.mpr hw.symm⟩
    · rintro ⟨v, hv, hw⟩
      exact ⟨Pattern.covers_choice.mpr ⟨v, hv, (beq_iff_eq.mp hw).symm⟩, ht⟩
  · rw [if_neg ht, List.find?_eq_none]
    intro r hr htake
    obtain ⟨e, _, rfl⟩ := List.mem_map.mp hr
    exact ht (of_decide_eq_true htake).ends

theorem find?_not_word {rules : List (LexRule κ)}
    (hrules : ∀ r ∈ rules, ∀ w, IsWord w → ¬r.pattern.Covers w) (hw : IsWord w)
    (t : List Char) : rules.find? (fun r => decide (r.MayTake w t)) = none := by
  rw [List.find?_eq_none]
  intro r hr htake
  exact hrules r hr w hw (of_decide_eq_true htake).covers

/-- The first rule that may take a word makes of it what the lexicon says. -/
theorem Governs.bind_firstRule? (h : l.Governs g) (hw : IsWord w) (t : List Char) :
    (g.firstRule? w t).bind (fun r => g.tokenOf? ⟨w, some r⟩) = some (l.token w t) := by
  obtain ⟨front, middle, behind, hrules, hfront, hmiddle⟩ := h.rules
  have hidentifier : (l.identifierRule :: behind).find? (fun r => decide (r.MayTake w t))
      = some l.identifierRule := List.find?_cons_of_pos (decide_eq_true ⟨hw.covers, rfl⟩)
  rw [Grammar.firstRule?, hrules, List.find?_append, List.find?_append, List.find?_append,
    List.find?_append, find?_spellings, find?_not_word hfront hw, find?_families,
    find?_not_word hmiddle hw, hidentifier, token, keyword?]
  cases l.spellings.find? fun e => e.1.toList == w with
  | some e => rfl
  | none =>
    by_cases ht : atWordEnd t = true
    · simp only [ht]
      cases l.families.find? fun e => e.1.any fun v => v.toList == w <;> rfl
    · simp only [ht]
      rfl

theorem keyword?_nil_eq_none : l.keyword? w [] = none
    ↔ (∀ e ∈ l.spellings, e.1.toList ≠ w) ∧ ∀ e ∈ l.families, ∀ v ∈ e.1, v.toList ≠ w := by
  rw [keyword?]
  cases h : l.spellings.find? fun e => e.1.toList == w with
  | some e =>
    have hw : e.1.toList = w := by simpa using List.find?_some h
    simp only [reduceCtorEq, false_iff]
    exact fun hno => hno.1 e (List.mem_of_find?_eq_some h) hw
  | none =>
    have hspellings : ∀ e ∈ l.spellings, e.1.toList ≠ w := by
      simpa using List.find?_eq_none.mp h
    simp only [atWordEnd, if_true, Option.map_eq_none_iff, List.find?_eq_none, List.any_eq_true,
      beq_iff_eq, not_exists, not_and]
    exact ⟨fun hno => ⟨hspellings, hno⟩, fun hno => hno.2⟩

/-- Alone a word is what the lexicon makes of it in front of nothing. -/
theorem Governs.wholeToken?_word (h : l.Governs g) (hw : IsWord w) :
    g.wholeToken? w = some (l.token w []) := by
  have hcovering : g.coveringRule? w = g.firstRule? w [] := by
    rw [Grammar.coveringRule?, Grammar.firstRule?]
    congr
    funext r
    rw [decide_eq_decide]
    exact ⟨fun hcovers => ⟨hcovers, by simp [LexRule.endsAt, atWordEnd]⟩, fun htake => htake.covers⟩
  rw [Grammar.wholeToken?, hcovering]
  exact h.bind_firstRule? hw []

end Lexicon

/-! ## Rules at the start of a word -/

instance : DecidablePred StartsWord
  | [] => isFalse (by simp [StartsWord])
  | c :: rest => decidable_of_iff (isWordStart c = true) (by simp [StartsWord])

/-- The letters and the underscore. -/
def wordStarts : List Char := alphabet.filter isWordStart

theorem mem_wordStarts {c : Char} (hc : isWordStart c = true) : c ∈ wordStarts := by
  have hstandIn := isCoarse_isWordStart c
  have hmem := standIn_mem c
  rw [standIn] at hstandIn hmem
  split_ifs at hstandIn hmem
  · exact List.mem_filter.mpr ⟨hmem, hc⟩
  · rw [hc] at hstandIn
    cases hstandIn

/-- What no letter starts matches nothing at the front of a word. -/
theorem StartsWord.not_covers {m : List Char} (hm : StartsWord m) {p : Pattern}
    (hp : (wordStarts.all fun c => !p.starts c) = true) : ¬p.Covers m := by
  obtain ⟨c, rest, rfl, hc⟩ := hm
  have hstarts := List.all_eq_true.mp hp c (mem_wordStarts hc)
  exact Pattern.not_covers_cons (by simpa using hstarts) rest

theorem Pattern.not_all_isWordPart {p : Pattern} (hp : p.Coarse)
    (hmarked : (p.marked fun c => !isWordPart c) = true) {m : List Char} (hm : p.Covers m) :
    ¬m.all isWordPart = true := by
  obtain ⟨x, hx, hno⟩ := exists_mem_of_marked hp isCoarse_isWordPart.not hmarked hm
  intro hall
  rw [List.all_eq_true.mp hall x hx] at hno
  cases hno

end ConceptInventory
