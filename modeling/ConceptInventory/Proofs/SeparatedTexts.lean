import ConceptInventory.Proofs.CutDecision
import ConceptInventory.Proofs.LongestFirst

/-!
# Texts behind separators

A text that a rule covers as a whole is one span where it ends at a separator,
if no rule covers more across the separator: of the rules that cover the text
the first decides. The separator itself falls to the rule for gaps, so texts
with separators between them are cut into the texts, each decided as it is
alone.
-/
namespace ConceptInventory

variable {κ : Type}

/-- Texts with a separator between neighbours. -/
def separated (sep : Char) : List (List Char) → List Char
  | [] => []
  | [s] => s
  | s :: rest => s ++ sep :: separated sep rest

/-! ## Covered texts -/

namespace Pattern

theorem covers_iff_nil_mem_rests {p : Pattern} {s : List Char} :
    p.Covers s ↔ [] ∈ p.rests s := by
  rw [mem_rests_iff]
  constructor
  · intro h
    exact ⟨s, (List.append_nil s).symm, h⟩
  · rintro ⟨m, hm, h⟩
    rw [hm, List.append_nil]
    exact h

instance (p : Pattern) (s : List Char) : Decidable (p.Covers s) :=
  decidable_of_iff ([] ∈ p.rests s) covers_iff_nil_mem_rests.symm

theorem covers_empty {s : List Char} : empty.Covers s ↔ s = [] := by
  constructor
  · rintro ⟨⟩
    rfl
  · rintro rfl
    exact .empty

theorem covers_char {c : Char} {s : List Char} : (char c).Covers s ↔ s = [c] := by
  constructor
  · intro h
    cases h with
    | one h => rw [beq_iff_eq.mp h]
  · rintro rfl
    exact .one (beq_self_eq_true c)

theorem covers_seq {p q : Pattern} {s : List Char} :
    (seq p q).Covers s ↔ ∃ u v, s = u ++ v ∧ p.Covers u ∧ q.Covers v := by
  constructor
  · rintro ⟨⟩
    exact ⟨_, _, rfl, ‹_›, ‹_›⟩
  · rintro ⟨u, v, rfl, hu, hv⟩
    exact .seq hu hv

theorem covers_lit {w : String} {s : List Char} : (lit w).Covers s ↔ s = w.toList := by
  rw [covers_iff_nil_mem_rests, rests_lit]
  constructor
  · intro h
    split_ifs at h with hpre
    · have hdrop : s.length ≤ w.toList.length :=
        List.drop_eq_nil_iff.mp (List.mem_singleton.mp h).symm
      exact (hpre.eq_of_length_le hdrop).symm
    · cases h
  · rintro rfl
    simp

theorem covers_lit_seq {w : String} {p : Pattern} {s : List Char}
    (h : (seq (lit w) p).Covers s) : w.toList <+: s := by
  cases h with
  | @seq _ _ u v hu _ =>
    rw [← covers_lit.mp hu]
    exact List.prefix_append u v

/-- A covered text in front is empty or starts with the first character. -/
theorem Covers.eq_nil_or_starts {p : Pattern} {m : List Char} (hm : p.Covers m) {c : Char}
    {s : List Char} (hpre : m <+: c :: s) : m = [] ∨ p.starts c = true := by
  cases m with
  | nil => exact .inl rfl
  | cons d m =>
    obtain ⟨rfl, _⟩ := List.cons_prefix_cons.mp hpre
    exact .inr (hm.starts_of_cons rfl)

theorem covers_choice {ws : List String} {s : List Char} :
    (choice ws).Covers s ↔ ∃ w ∈ ws, s = w.toList := by
  rw [covers_iff_nil_mem_rests, rests_choice, List.mem_flatMap]
  simp only [← covers_iff_nil_mem_rests, covers_lit]

theorem covers_many_one {ok : Char → Bool} {s : List Char} (h : s.all ok = true) :
    (many (one ok)).Covers s := by
  induction s with
  | nil => exact .manyNone
  | cons c s ih =>
    obtain ⟨hc, hs⟩ := Bool.and_eq_true_iff.mp h
    exact .manyMore (s := [c]) (.one hc) (ih hs)

theorem covers_many_one_iff {ok : Char → Bool} {s : List Char} :
    (many (one ok)).Covers s ↔ s.all ok = true := by
  refine ⟨fun h => List.all_eq_true.mpr fun c hc => ?_, covers_many_one⟩
  simpa [avoids] using h.avoids_eq_false hc

end Pattern

/-! ## Words -/

/-- An ASCII word: letters, digits and underscores, no digit first. -/
def IsWord : List Char → Prop
  | [] => False
  | c :: rest => isWordStart c = true ∧ rest.all isWordPart = true

instance : DecidablePred IsWord
  | [] => inferInstanceAs (Decidable False)
  | c :: rest => inferInstanceAs (Decidable (isWordStart c = true ∧ rest.all isWordPart = true))

theorem isWordPart_of_isWordStart {c : Char} (h : isWordStart c = true) :
    isWordPart c = true := by
  rw [isWordStart, Bool.or_eq_true] at h
  rcases h with h | h <;> simp [isWordPart, h]

theorem IsWord.covers {s : List Char} (h : IsWord s) :
    (Pattern.seq (.one isWordStart) (.many (.one isWordPart))).Covers s := by
  cases s with
  | nil => cases h
  | cons c rest => exact .seq (s := [c]) (.one h.1) (Pattern.covers_many_one h.2)

theorem IsWord.exists_cons {s : List Char} (h : IsWord s) :
    ∃ c rest, s = c :: rest ∧ isWordStart c = true := by
  cases s with
  | nil => cases h
  | cons c rest => exact ⟨c, rest, rfl, h.1⟩

theorem IsWord.all {s : List Char} (h : IsWord s) : s.all isWordPart = true := by
  cases s with
  | nil => rfl
  | cons c rest => simp [isWordPart_of_isWordStart h.1, h.2]

/-- A text that a grammar spells out or lists among its keywords. -/
def IsReserved (spellings : List (String × κ)) (families : List (Pattern × κ))
    (s : List Char) : Prop :=
  (∃ e ∈ spellings, s = e.1.toList) ∨ ∃ e ∈ families, e.1.Covers s

instance (spellings : List (String × κ)) (families : List (Pattern × κ))
    (s : List Char) : Decidable (IsReserved spellings families s) :=
  inferInstanceAs (Decidable (_ ∨ _))

/-! ## The rule that covers a text -/

/-- The first rule that covers a text as a whole. -/
def Grammar.coveringRule? (g : Grammar κ) (s : List Char) : Option (LexRule κ) :=
  g.rules.find? fun r => decide (r.pattern.Covers s)

/-- The token that rule makes of the text. -/
def Grammar.wholeToken? (g : Grammar κ) (s : List Char) : Option (Token κ) :=
  (g.coveringRule? s).bind fun r => g.tokenOf? ⟨s, some r⟩

theorem Grammar.wholeToken?_eq {g : Grammar κ} {before after : List (LexRule κ)}
    {r : LexRule κ} (hrules : g.rules = before ++ r :: after) {s : List Char}
    (hs : r.pattern.Covers s) (hbefore : ∀ b ∈ before, ¬b.pattern.Covers s) :
    g.wholeToken? s = g.tokenOf? ⟨s, some r⟩ := by
  have hfirst : g.coveringRule? s = some r := by
    apply List.find?_eq_some_iff_append.mpr
    refine ⟨decide_eq_true hs, before, after, hrules, fun b hb => ?_⟩
    simpa using hbefore b hb
  rw [wholeToken?, hfirst]
  rfl

theorem Grammar.covers_of_coveringRule? {g : Grammar κ} {s : List Char} {r : LexRule κ}
    (h : g.coveringRule? s = some r) : r ∈ g.rules ∧ r.pattern.Covers s := by
  refine ⟨List.mem_of_find?_eq_some h, ?_⟩
  have hcovers := List.find?_some h
  exact of_decide_eq_true hcovers

/-! ## Rules in front of a separator -/

/-- Nothing, or a separator first. -/
def AtSeparator (x : Char) (w : List Char) : Prop := w = [] ∨ ∃ b, w = x :: b

/-- No rule covers more than the text where a separator stands behind it. -/
def Grammar.Isolates (g : Grammar κ) (x : Char) (s : List Char) : Prop :=
  ∀ r ∈ g.rules, ∀ m b, r.pattern.Covers m → m <+: s ++ x :: b → m <+: s

theorem Pattern.staysIn_nil (p : Pattern) (s : List Char) : p.StaysIn s [] := by
  intro m _ hpre
  rwa [List.append_nil] at hpre

theorem Grammar.Isolates.staysIn {g : Grammar κ} {x : Char} {s : List Char}
    (h : g.Isolates x s) {w : List Char} (hw : AtSeparator x w) {r : LexRule κ}
    (hr : r ∈ g.rules) : r.pattern.StaysIn s w := by
  rcases hw with rfl | ⟨b, rfl⟩
  · exact r.pattern.staysIn_nil s
  · exact fun m hm hpre => h r hr m b hm hpre

namespace LexRule

theorem exists_eq_append_left (r : LexRule κ) (s : List Char) :
    ∃ m, s = m ++ r.left s ∧ (m = [] ∨ r.pattern.Covers m) := by
  rw [left]
  cases h : r.rest? (.of s) with
  | none => exact ⟨[], rfl, .inl rfl⟩
  | some t =>
    obtain ⟨m, hm, hcovers⟩ := rest?_eq_append h
    exact ⟨m, hm, .inr hcovers⟩

variable {r : LexRule κ} {s w : List Char}

/-- The rule reaches a covered text, or nowhere. -/
theorem reach_eq_length (r : LexRule κ) (s w : List Char)
    (hmax : r.pattern.StaysIn s w) :
    ∃ m, m <+: s ∧ r.reach (s ++ w) = m.length ∧ (m = [] ∨ r.pattern.Covers m) := by
  obtain ⟨m, hm, hcovers⟩ := r.exists_eq_append_left (s ++ w)
  refine ⟨m, ?_, ?_, hcovers⟩
  · rcases hcovers with rfl | hcovers
    · exact List.nil_prefix
    · exact hmax m hcovers ⟨_, hm.symm⟩
  · have hlength := congrArg List.length hm
    rw [reach, hlength, List.length_append, Nat.add_sub_cancel]

theorem left_of_covers (hl : r.pattern.LongestFirst) (hs : r.pattern.Covers s)
    (hend : r.endsAt w = true) (hmax : r.pattern.StaysIn s w) :
    r.left (s ++ w) = w := by
  have hhead := hl.head?_rests hs fun n hn hcovers => (hmax n hcovers hn).length_le
  obtain ⟨rest, hrests⟩ := List.head?_eq_some_iff.mp hhead
  rw [left, rest?_eq_find?, hrests, List.find?_cons_of_pos hend]
  rfl

/-- Where a rule may take a text, what it leaves is the preferred rest of those in front of
which it may end. -/
theorem exists_rests_eq (hs : r.pattern.Covers s) (hend : r.endsAt w = true) :
    ∃ before after, r.pattern.rests (s ++ w) = before ++ r.left (s ++ w) :: after
      ∧ w ∉ before := by
  have hmem := Pattern.mem_rests_of_covers s w hs
  have hsome : ((r.pattern.rests (s ++ w)).find? r.endsAt).isSome = true :=
    List.find?_isSome.mpr ⟨w, hmem, hend⟩
  obtain ⟨t, ht⟩ := Option.isSome_iff_exists.mp hsome
  have hleft : r.left (s ++ w) = t := by
    rw [left, rest?_eq_find?, ht]
    rfl
  obtain ⟨_, before, after, hrests, hbefore⟩ := List.find?_eq_some_iff_append.mp ht
  refine ⟨before, after, hleft ▸ hrests, fun hw => ?_⟩
  have hno := hbefore w hw
  simp [hend] at hno

/-- A rule that prefers the longest match reaches at least as far as any match. -/
theorem le_reach_of_covers (hl : r.pattern.LongestFirst) (hs : r.pattern.Covers s)
    (hend : r.endsAt w = true) : s.length ≤ r.reach (s ++ w) := by
  obtain ⟨before, after, hrests, hbefore⟩ := exists_rests_eq hs hend
  have hmem := Pattern.mem_rests_of_covers s w hs
  have hsorted := hl (s ++ w)
  rw [hrests] at hmem hsorted
  have hle : (r.left (s ++ w)).length ≤ w.length := by
    rcases List.mem_append.mp hmem with hw | hw
    · exact (hbefore hw).elim
    · rcases List.mem_cons.mp hw with hw | hw
      · exact Nat.le_of_eq (congrArg List.length hw.symm)
      · have hafter := (List.pairwise_append.mp hsorted).2.1
        exact Nat.le_of_lt ((List.pairwise_cons.mp hafter).1 w hw)
  rw [reach, List.length_append]
  omega

/-- A rule that may take something reaches somewhere. -/
theorem reach_pos (hnull : r.pattern.nullable = false) (hs : r.pattern.Covers s)
    (hend : r.endsAt w = true) : 0 < r.reach (s ++ w) := by
  obtain ⟨before, after, hrests, _⟩ := exists_rests_eq hs hend
  have hmem : r.left (s ++ w) ∈ r.pattern.rests (s ++ w) := by
    rw [hrests]
    simp
  have hlt := Pattern.length_lt_of_mem_rests hnull hmem
  rw [reach]
  omega

theorem endsAt_atSeparator {x : Char} (hx : isWordCharacter x = false) (r : LexRule κ)
    (hw : AtSeparator x w) : r.endsAt w = true := by
  rcases hw with rfl | ⟨b, rfl⟩
  · simp [endsAt, atWordEnd]
  · simp [endsAt, atWordEnd, hx]

end LexRule

/-! ## Texts in front of a separator -/

namespace Grammar

variable {g : Grammar κ} {x : Char} {s w : List Char}

theorem decides_of_coveringRule? (hx : isWordCharacter x = false) (hne : s ≠ [])
    (hiso : g.Isolates x s) (hw : AtSeparator x w) {r : LexRule κ}
    (hr : g.coveringRule? s = some r) (hl : r.pattern.LongestFirst) :
    Decides g.rules (s ++ w) (some (r, .of w)) := by
  obtain ⟨hs, before, after, hrules, hbefore⟩ := List.find?_eq_some_iff_append.mp hr
  have hcovers : r.pattern.Covers s := of_decide_eq_true hs
  have hmax {q : LexRule κ} (hq : q ∈ g.rules) : q.pattern.StaysIn s w := hiso.staysIn hw hq
  have hleft : r.left (s ++ w) = w :=
    LexRule.left_of_covers hl hcovers (r.endsAt_atSeparator hx hw) (hmax (by simp [hrules]))
  have hreach : r.reach (s ++ w) = s.length := by
    rw [LexRule.reach, hleft, List.length_append]
    omega
  refine ⟨before, after, hrules, hleft, ?_, ?_, ?_⟩
  · have hpos := List.length_pos_iff.mpr hne
    rw [Rest.size_of, List.length_append]
    omega
  · intro b hb
    obtain ⟨m, hpre, hm, hcov⟩ := b.reach_eq_length s w (hmax (by simp [hrules, hb]))
    rw [hm, hreach]
    refine Nat.lt_of_le_of_ne hpre.length_le fun heq => ?_
    obtain rfl := hpre.eq_of_length heq
    have hnot : ¬b.pattern.Covers m := by simpa using hbefore b hb
    exact hcov.elim hne hnot
  · intro a ha
    obtain ⟨m, hpre, hm, _⟩ := a.reach_eq_length s w (hmax (by simp [hrules, ha]))
    rw [hm, hreach]
    exact hpre.length_le

/-- A character that no rule covers stands alone. -/
theorem decides_none_of_not_covers {c : Char} (hstay : ∀ r ∈ g.rules, r.pattern.StaysIn [c] w)
    (hnone : ∀ r ∈ g.rules, ¬r.pattern.Covers [c]) : Decides g.rules (c :: w) none := by
  intro r hr
  obtain ⟨m, hpre, hm, hcov⟩ := r.reach_eq_length [c] w (hstay r hr)
  rw [List.singleton_append] at hm
  rw [hm]
  cases m with
  | nil => rfl
  | cons d m =>
    obtain ⟨rfl, hnil⟩ := List.cons_prefix_cons.mp hpre
    rw [List.prefix_nil.mp hnil] at hcov
    exact (hnone r hr (hcov.resolve_left (by simp))).elim

/-- In front of a separator the text is one span, and that is its token. -/
def Stands (g : Grammar κ) (x : Char) (s : List Char) (t : Token κ) : Prop :=
  ∃ rule, g.tokenOf? ⟨s, rule⟩ = some t ∧
    ∀ w spans, AtSeparator x w → g.Cut w spans → g.Cut (s ++ w) (⟨s, rule⟩ :: spans)

theorem stands_of_coveringRule? (hx : isWordCharacter x = false) (hne : s ≠ [])
    (hiso : g.Isolates x s) {r : LexRule κ} (hr : g.coveringRule? s = some r)
    (hl : r.pattern.LongestFirst) {t : Token κ} (ht : g.tokenOf? ⟨s, some r⟩ = some t) :
    g.Stands x s t :=
  ⟨some r, ht, fun _ _ hw hcut => .ruled (decides_of_coveringRule? hx hne hiso hw hr hl) hcut⟩

theorem stands_of_not_covers {c : Char} (hiso : g.Isolates x [c])
    (hnone : ∀ r ∈ g.rules, ¬r.pattern.Covers [c]) :
    g.Stands x [c] ⟨g.unrecognized, some (String.ofList [c])⟩ :=
  ⟨none, rfl, fun _ _ hw hcut =>
    .alone (decides_none_of_not_covers (fun _ hr => hiso.staysIn hw hr) hnone) hcut⟩

/-- Where no rule gives the kind of unrecognized characters, a character with that
token is covered by no rule. -/
theorem not_covers_of_tokenize (hnull : ∀ r ∈ g.rules, r.pattern.nullable = false)
    (hkind : ∀ r ∈ g.rules, r.kind ≠ some g.unrecognized) {c : Char} {text : Option String}
    (h : g.tokenize (String.singleton c) = [⟨g.unrecognized, text⟩]) :
    ∀ r ∈ g.rules, ¬r.pattern.Covers [c] := by
  have hcut := g.cut_spans [c]
  rw [tokenize, String.toList_singleton] at h
  generalize g.spans [c] = spans at h hcut
  generalize hs : [c] = s at hcut
  cases hcut with
  | nil => cases hs
  | alone hnone _ =>
    obtain ⟨rfl, rfl⟩ := List.cons.inj hs
    intro r hr hcovers
    have hpos := LexRule.reach_pos (w := []) (hnull r hr) hcovers
      (by simp [LexRule.endsAt, atWordEnd])
    rw [List.append_nil, hnone r hr] at hpos
    exact Nat.lt_irrefl 0 hpos
  | @ruled r front rest spans hd hcut =>
    obtain ⟨before, after, hrules, _, hlt, _⟩ := hd
    rw [List.filterMap_cons] at h
    cases hk : r.kind with
    | none =>
      have hnil : rest = [] := by
        rw [← hs, Rest.size_of, List.length_singleton] at hlt
        exact List.length_eq_zero_iff.mp (by omega)
      rw [hnil] at hcut
      rw [← Cut.nil.unique hcut] at h
      simp [tokenOf?, hk] at h
    | some k =>
      have hkk : k = g.unrecognized := by
        simp only [tokenOf?, hk, Option.map_some, List.cons.injEq, Token.mk.injEq] at h
        exact h.1.1
      exact (hkind r (by simp [hrules]) (hkk ▸ hk)).elim

/-! ## Gaps -/

/-- Drops runs of a class. -/
def gapRule (gap : Char → Bool) : LexRule κ := .dropped (.plus (.one gap))

/-- The grammar drops runs of a class, and no other rule starts at the separator, which
is of that class. -/
structure Separates (g : Grammar κ) (x : Char) (gap : Char → Bool) : Prop where
  rules : ∃ before after, g.rules = before ++ gapRule gap :: after
    ∧ ∀ q ∈ before ++ after, q.pattern.starts x = false
  self : gap x = true

/-- The grammar drops runs of a class, and no other rule starts with a character of it. -/
def Skips (g : Grammar κ) (gap : Char → Bool) : Prop :=
  ∃ before after, g.rules = before ++ gapRule gap :: after
    ∧ ∀ q ∈ before ++ after, ∀ c, gap c = true → q.pattern.starts c = false

theorem Skips.separates {gap : Char → Bool} (h : g.Skips gap) (hx : gap x = true) :
    g.Separates x gap where
  rules := by
    obtain ⟨before, after, hrules, hothers⟩ := h
    exact ⟨before, after, hrules, fun q hq => hothers q hq x hx⟩
  self := hx

/-- The text starts with a character that is not of the class. -/
def Leaves (gap : Char → Bool) (s : List Char) : Prop :=
  ∃ c rest, s = c :: rest ∧ gap c = false

/-- A text with its token between separators, which does not run on from a gap. -/
structure Holds (g : Grammar κ) (x : Char) (gap : Char → Bool) (s : List Char) (t : Token κ) :
    Prop where
  stands : g.Stands x s t
  starts : Leaves gap s

theorem exists_separated_cons (x : Char) (s : List Char) (rest : List (List Char)) :
    ∃ t, separated x (s :: rest) = s ++ t := by
  cases rest with
  | nil => exact ⟨[], (List.append_nil s).symm⟩
  | cons s' rest => exact ⟨_, rfl⟩

namespace Separates

variable {gap : Char → Bool}

/-- A separator is a span of its own in front of a text that goes on otherwise. -/
theorem cut_cons (h : g.Separates x gap) {u : List Char} (hu : Leaves gap u)
    {spans : List (Span κ)} (hcut : g.Cut u spans) :
    g.Cut (x :: u) (⟨[x], some (gapRule gap)⟩ :: spans) := by
  obtain ⟨c, rest, rfl, hc⟩ := hu
  obtain ⟨before, after, hrules, hothers⟩ := h.rules
  have hdecides := decides_run (r := gapRule gap) rfl rfl h.self hothers (c :: rest)
  rw [List.dropWhile_cons_of_neg (by simp [hc]), ← hrules] at hdecides
  have htext : x :: c :: rest = [x] ++ c :: rest := rfl
  rw [htext] at hdecides ⊢
  exact .ruled hdecides hcut

theorem exists_cut (h : g.Separates x gap) {es : List (List Char × Token κ)}
    (hes : ∀ e ∈ es, g.Holds x gap e.1 e.2) :
    ∃ spans, g.Cut (separated x (es.map Prod.fst)) spans
      ∧ spans.filterMap g.tokenOf? = es.map Prod.snd := by
  induction es with
  | nil => exact ⟨[], .nil, rfl⟩
  | cons e es ih =>
    obtain ⟨spans, hcut, htokens⟩ := ih fun k hk => hes k (List.mem_cons_of_mem e hk)
    obtain ⟨rule, ht, hstands⟩ := (hes e List.mem_cons_self).stands
    cases es with
    | nil =>
      have hone := hstands [] [] (.inl rfl) .nil
      rw [List.append_nil] at hone
      exact ⟨_, hone, by simp [ht]⟩
    | cons k es =>
      have hleaves : Leaves gap (separated x ((k :: es).map Prod.fst)) := by
        obtain ⟨c, rest, hs, hc⟩ := (hes k (by simp)).starts
        obtain ⟨t, hseparated⟩ := exists_separated_cons x k.1 (es.map Prod.fst)
        exact ⟨c, rest ++ t, by rw [List.map_cons, hseparated, hs, List.cons_append], hc⟩
      have hall := hstands _ _ (.inr ⟨_, rfl⟩) (h.cut_cons hleaves hcut)
      refine ⟨_, hall, ?_⟩
      have hgap : g.tokenOf? ⟨[x], some (gapRule gap)⟩ = none := rfl
      simp [ht, hgap, htokens]

/-- The tokens of texts with separators between them are those of the texts. -/
theorem tokenize_separated (h : g.Separates x gap) {es : List (List Char × Token κ)}
    (hes : ∀ e ∈ es, g.Holds x gap e.1 e.2) :
    g.tokenize (String.ofList (separated x (es.map Prod.fst))) = es.map Prod.snd := by
  obtain ⟨spans, hcut, htokens⟩ := h.exists_cut hes
  rw [tokenize, String.toList_ofList, spans_eq_of_cut hcut, htokens]

end Separates

/-! ## Grammars a separator works for -/

/-- The rules with a kind are those for strings and some that avoid the separator. A
text these cover does not start like a gap or a comment, and of a string the end is
settled by the text. The other rules drop gaps and comments. -/
structure Separable (g : Grammar κ) (x : Char) (gap : Char → Bool) (plain : List (LexRule κ))
    (string : LexRule κ) (openers : List String) : Prop where
  separates : g.Separates x gap
  no_word : isWordCharacter x = false
  nullable : ∀ r ∈ g.rules, r.pattern.nullable = false
  kinds : ∀ r ∈ g.rules, r.kind ≠ some g.unrecognized
  rules : ∀ r ∈ g.rules, r ∈ string :: plain ∨ r = gapRule gap
    ∨ r.kind = none ∧ ∃ w ∈ openers, ∀ m, r.pattern.Covers m → w.toList <+: m
  longestFirst : ∀ r ∈ string :: plain, r.pattern.LongestFirst
  no_gap : ∀ r ∈ string :: plain, ∀ c, gap c = true → r.pattern.starts c = false
  no_comment : ∀ r ∈ string :: plain, ∀ s, r.pattern.Covers s → ∀ w ∈ openers, ¬w.toList <+: s
  avoids : ∀ r ∈ plain, r.pattern.avoids x = true
  no_string : ∀ r ∈ plain, ∀ c, string.pattern.starts c = true → r.pattern.starts c = false
  settled : ∀ m n s, string.pattern.Covers m → string.pattern.Covers n → m <+: s → n <+: s → m = n
  openers_avoid : ∀ w ∈ openers, (Pattern.lit w).avoids x = true
  openers_alone : ∀ w ∈ openers, 2 ≤ w.toList.length ∨ ∃ r ∈ g.rules, r.pattern.Covers w.toList

namespace Separable

variable {gap : Char → Bool} {plain : List (LexRule κ)} {string : LexRule κ}
  {openers : List String}

/-- Where a string stands in front, no other is matched. -/
theorem staysIn_string (h : g.Separable x gap plain string openers) {m : List Char}
    (hm : string.pattern.Covers m) (hpre : m <+: s) : string.pattern.StaysIn s w := by
  intro n hn hpre'
  have hsame := h.settled n m _ hn hm hpre' (hpre.trans (List.prefix_append s w))
  exact hsame ▸ hpre

/-- A text is cut off by a separator unless it starts like a gap, a comment or a string
that goes on. -/
theorem isolates (h : g.Separable x gap plain string openers) {c : Char} {rest : List Char}
    (hgap : gap c = false)
    (hstring : string.pattern.starts c = true → string.pattern.Covers (c :: rest))
    (hcomment : ∀ w ∈ openers, ¬w.toList <+: c :: rest) : g.Isolates x (c :: rest) := by
  intro r hr m b hm hpre
  rcases h.rules r hr with hr | rfl | ⟨_, w, hw, hopens⟩
  · rcases List.mem_cons.mp hr with rfl | hr
    · rcases hm.eq_nil_or_starts hpre with rfl | hstarts
      · exact List.nil_prefix
      · exact h.staysIn_string (hstring hstarts) List.prefix_rfl m hm hpre
    · exact Pattern.staysIn_of_avoids (h.avoids r hr) _ _ m hm hpre
  · rcases hm.eq_nil_or_starts hpre with rfl | hstarts
    · exact List.nil_prefix
    · have hgap' : gap c = true := by
        simpa [gapRule, LexRule.dropped, Pattern.plus, Pattern.starts, Pattern.nullable]
          using hstarts
      rw [hgap] at hgap'
      cases hgap'
  · have hwhole := Pattern.staysIn_of_avoids (h.openers_avoid w hw) _ _ _
      (Pattern.covers_lit.mpr rfl) ((hopens m hm).trans hpre)
    exact (hcomment w hw hwhole).elim

/-- A rule that gives a token is not for gaps or comments. -/
theorem mem_of_tokenOf? (h : g.Separable x gap plain string openers) {r : LexRule κ}
    (hr : r ∈ g.rules) {t : Token κ} (ht : g.tokenOf? ⟨s, some r⟩ = some t) :
    r ∈ string :: plain := by
  rcases h.rules r hr with hr | rfl | ⟨hnone, _⟩
  · exact hr
  · cases ht
  · simp [tokenOf?, hnone] at ht

/-- A text is cut off and gives the token of the first rule that covers it. -/
theorem holds_of_wholeToken? (h : g.Separable x gap plain string openers) {t : Token κ}
    (htoken : g.wholeToken? s = some t) : g.Holds x gap s t := by
  obtain ⟨r, hr, ht⟩ := Option.bind_eq_some_iff.mp htoken
  obtain ⟨hmem, hs⟩ := covers_of_coveringRule? hr
  have hkind := h.mem_of_tokenOf? hmem ht
  obtain ⟨c, rest, rfl, hstarts⟩ := hs.exists_cons (h.nullable r hmem)
  have hgap : gap c = false := by
    by_contra hc
    rw [h.no_gap r hkind c (by simpa using hc)] at hstarts
    cases hstarts
  have hstring (hc : string.pattern.starts c = true) : string.pattern.Covers (c :: rest) := by
    rcases List.mem_cons.mp hkind with rfl | hplain
    · exact hs
    · rw [h.no_string r hplain c hc] at hstarts
      cases hstarts
  have hiso := h.isolates hgap hstring (h.no_comment r hkind _ hs)
  exact ⟨stands_of_coveringRule? h.no_word (List.cons_ne_nil c rest) hiso hr
    (h.longestFirst r hkind) ht, c, rest, rfl, hgap⟩

/-- Alone such a text is scanned as that token. -/
theorem tokenize_of_wholeToken? (h : g.Separable x gap plain string openers) {t : Token κ}
    (htoken : g.wholeToken? s = some t) : g.tokenize (String.ofList s) = [t] := by
  have hone : ∀ e ∈ [(s, t)], g.Holds x gap e.1 e.2 := by
    simpa using h.holds_of_wholeToken? htoken
  simpa only [List.map_cons, List.map_nil, separated] using h.separates.tokenize_separated hone

/-- So is a character that alone is unrecognized, unless strings start with it. -/
theorem holds_of_unrecognized (h : g.Separable x gap plain string openers) {c : Char}
    (hc : string.pattern.starts c = false) {text : Option String}
    (htoken : g.tokenize (String.singleton c) = [⟨g.unrecognized, text⟩]) :
    g.Holds x gap [c] ⟨g.unrecognized, some (String.ofList [c])⟩ := by
  have hnone := not_covers_of_tokenize h.nullable h.kinds htoken
  have hgap : gap c = false := by
    by_contra hgap
    obtain ⟨before, after, hrules, _⟩ := h.separates.rules
    have hcovers : (Pattern.plus (.one gap)).Covers [c] :=
      .seq (s := [c]) (.one (by simpa using hgap)) .manyNone
    exact hnone (gapRule gap) (by simp [hrules]) hcovers
  have hcomment : ∀ w ∈ openers, ¬w.toList <+: [c] := by
    intro w hw hpre
    rcases h.openers_alone w hw with hlong | ⟨r, hr, hcovers⟩
    · have hle := hpre.length_le
      rw [List.length_singleton] at hle
      omega
    · obtain ⟨d, rest, hword, _⟩ := hcovers.exists_cons (h.nullable r hr)
      rw [hword] at hpre hcovers
      obtain ⟨rfl, hnil⟩ := List.cons_prefix_cons.mp hpre
      rw [List.prefix_nil.mp hnil] at hcovers
      exact hnone r hr hcovers
  have hiso : g.Isolates x [c] := h.isolates hgap (by simp [hc]) hcomment
  exact ⟨stands_of_not_covers hiso hnone, c, [], rfl, hgap⟩

end Separable

end Grammar

end ConceptInventory
