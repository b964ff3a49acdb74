import ConceptInventory.Proofs.PatternSeam
import ConceptInventory.Text.WordCharacter

/-!
# Patterns whose longest match is preferred

The rests of a text come in the order of preference, not of length. For most
patterns the two agree, since at every place where a match may stop or go on
the next character settles which of them it is, and going on is preferred. Of
two branches either the first characters differ, or whatever the left one
covers holds a character the right one never takes. Both are computed from the
pattern. No class of characters here tells those beyond ASCII apart, so one of
them stands in for all.
-/
namespace ConceptInventory

/-! ## Classes of characters -/

/-- The characters of ASCII, and one of the others. -/
def alphabet : List Char := (List.range 0x81).map Char.ofNat

/-- The character of the alphabet that stands in for a character. -/
def standIn (c : Char) : Char := if c.toNat < 0x80 then c else Char.ofNat 0x80

/-- The class does not tell characters beyond ASCII apart. -/
def IsCoarse (ok : Char → Bool) : Prop := ∀ c, ok (standIn c) = ok c

theorem standIn_mem (c : Char) : standIn c ∈ alphabet := by
  rw [standIn, alphabet, List.mem_map]
  split_ifs with h
  · exact ⟨c.toNat, List.mem_range.mpr (by omega), Char.ofNat_toNat c⟩
  · exact ⟨0x80, List.mem_range.mpr (by decide), rfl⟩

/-- What holds in the alphabet holds of every character. -/
theorem IsCoarse.of_all {ok : Char → Bool} (h : IsCoarse ok) (hall : alphabet.all ok = true)
    (c : Char) : ok c = true := by
  rw [← h c]
  exact List.all_eq_true.mp hall _ (standIn_mem c)

theorem isCoarse_const (b : Bool) : IsCoarse fun _ => b := fun _ => rfl

theorem isCoarse_of_ascii {ok : Char → Bool} (h : ∀ c, ok c = true → c.toNat < 0x80) :
    IsCoarse ok := by
  have hout {c : Char} (hc : ¬c.toNat < 0x80) : ok c = false :=
    Bool.eq_false_iff.mpr fun hok => hc (h c hok)
  intro c
  rw [standIn]
  split_ifs with hc
  · rfl
  · rw [hout hc, hout (by decide)]

theorem IsCoarse.not {ok : Char → Bool} (h : IsCoarse ok) : IsCoarse fun c => !ok c := by
  intro c
  simp only [h c]

theorem IsCoarse.or {ok ok' : Char → Bool} (h : IsCoarse ok) (h' : IsCoarse ok') :
    IsCoarse fun c => ok c || ok' c := by
  intro c
  simp only [h c, h' c]

theorem IsCoarse.and {ok ok' : Char → Bool} (h : IsCoarse ok) (h' : IsCoarse ok') :
    IsCoarse fun c => ok c && ok' c := by
  intro c
  simp only [h c, h' c]

theorem isCoarse_beq {d : Char} (hd : d.toNat < 0x80) : IsCoarse fun c => c == d := by
  apply isCoarse_of_ascii
  intro c hc
  rw [beq_iff_eq.mp hc]
  exact hd

theorem isCoarse_bne {d : Char} (hd : d.toNat < 0x80) : IsCoarse fun c => c != d :=
  (isCoarse_beq hd).not

def IsAscii (s : List Char) : Prop := ∀ c ∈ s, c.toNat < 0x80

instance (s : List Char) : Decidable (IsAscii s) :=
  List.decidableBAll _ s

theorem isCoarse_contains {s : List Char} (hs : IsAscii s) : IsCoarse s.contains := by
  apply isCoarse_of_ascii
  intro c hc
  exact hs c (by simpa using hc)

theorem isCoarse_between {a b : Char} (hb : b.toNat < 0x80) :
    IsCoarse fun c => a ≤ c && c ≤ b := by
  apply isCoarse_of_ascii
  intro c hc
  have hle : c ≤ b := by simpa using (Bool.and_eq_true_iff.mp hc).2
  exact Nat.lt_of_le_of_lt (Char.le_def.mp hle) hb

theorem isCoarse_isDigit : IsCoarse isDigit := isCoarse_between (by decide)

theorem isCoarse_isLetter : IsCoarse isLetter :=
  (isCoarse_between (by decide)).or (isCoarse_between (by decide))

theorem isCoarse_isHexDigit : IsCoarse isHexDigit :=
  (isCoarse_isDigit.or (isCoarse_between (by decide))).or (isCoarse_between (by decide))

theorem isCoarse_isWordStart : IsCoarse isWordStart :=
  isCoarse_isLetter.or (isCoarse_beq (by decide))

theorem isCoarse_isWordPart : IsCoarse isWordPart :=
  (isCoarse_isLetter.or isCoarse_isDigit).or (isCoarse_beq (by decide))

namespace Pattern

/-- So are all the classes in the pattern. -/
def Coarse : Pattern → Prop
  | empty => True
  | one ok => IsCoarse ok
  | seq p q => p.Coarse ∧ q.Coarse
  | alt p q => p.Coarse ∧ q.Coarse
  | many p => p.Coarse
  | fewest p => p.Coarse

theorem coarse_lit {w : String} (h : IsAscii w.toList) : (lit w).Coarse := by
  rw [lit]
  generalize w.toList = s at h
  induction s with
  | nil => trivial
  | cons c s ih => exact ⟨isCoarse_beq (h c (by simp)), ih fun d hd => h d (by simp [hd])⟩

theorem isCoarse_starts {p : Pattern} (h : p.Coarse) : IsCoarse p.starts := by
  induction p with
  | empty => exact isCoarse_const false
  | one ok => exact h
  | seq p q ihp ihq => exact (ihp h.1).or ((isCoarse_const p.nullable).and (ihq h.2))
  | alt p q ihp ihq => exact (ihp h.1).or (ihq h.2)
  | many p ih => exact ih h
  | fewest p ih => exact ih h

theorem isCoarse_avoids {p : Pattern} (h : p.Coarse) : IsCoarse p.avoids := by
  induction p with
  | empty => exact isCoarse_const true
  | one ok => exact IsCoarse.not h
  | seq p q ihp ihq => exact (ihp h.1).and (ihq h.2)
  | alt p q ihp ihq => exact (ihp h.1).and (ihq h.2)
  | many p ih => exact ih h
  | fewest p ih => exact ih h

/-! ## What is computed -/

/-- The left pattern takes something, and not at the characters at which the right
one does. -/
def apart (p q : Pattern) : Bool :=
  !p.nullable && alphabet.all fun c => !(p.starts c && q.starts c)

/-- A match of the pattern that could stop in front of the character may go on. -/
def goesOn (x : Char) : Pattern → Bool
  | empty => false
  | one _ => false
  | seq p q => (q.nullable && p.goesOn x) || q.goesOn x
  | alt p q => (p.goesOn x || q.goesOn x) || (!p.apart q || (q.nullable && p.starts x))
  | many p => p.starts x
  | fewest _ => true

/-- Where a match ends is settled by the text. -/
def determined (p : Pattern) : Bool := alphabet.all fun c => !p.goesOn c

/-- Every text the pattern covers holds a character of a class. -/
def marked (ok : Char → Bool) : Pattern → Bool
  | empty => false
  | one ok' => alphabet.all fun c => !ok' c || ok c
  | seq p q => p.marked ok || q.marked ok
  | alt p q => p.marked ok && q.marked ok
  | many _ => false
  | fewest _ => false

/-- The longest match is preferred. -/
def takesLongest : Pattern → Bool
  | empty => true
  | one _ => true
  | seq p q => p.takesLongest && q.takesLongest
      && alphabet.all fun c => !(p.goesOn c && q.starts c)
  | alt p q => p.takesLongest && q.takesLongest && (p.apart q || p.marked q.avoids)
  | many p => !p.nullable && p.takesLongest && p.determined
  | fewest _ => false

theorem isCoarse_goesOn {p : Pattern} (h : p.Coarse) : IsCoarse p.goesOn := by
  induction p with
  | empty => exact isCoarse_const false
  | one ok => exact isCoarse_const false
  | seq p q ihp ihq => exact ((isCoarse_const q.nullable).and (ihp h.1)).or (ihq h.2)
  | alt p q ihp ihq =>
    exact ((ihp h.1).or (ihq h.2)).or ((isCoarse_const _).or
      ((isCoarse_const q.nullable).and (isCoarse_starts h.1)))
  | many p ih => exact isCoarse_starts h
  | fewest p ih => exact isCoarse_const true

/-! ## Covered texts -/

theorem not_covers_cons {p : Pattern} {c : Char} (h : p.starts c = false) (s : List Char) :
    ¬p.Covers (c :: s) := by
  intro hcovers
  rw [hcovers.starts_of_cons rfl] at h
  cases h

theorem Covers.exists_cons {p : Pattern} {m : List Char} (hm : p.Covers m)
    (hnull : p.nullable = false) : ∃ c rest, m = c :: rest ∧ p.starts c = true := by
  cases m with
  | nil => simp [hm.nullable_of_nil rfl] at hnull
  | cons c rest => exact ⟨c, rest, rfl, hm.starts_of_cons rfl⟩

theorem exists_mem_of_marked {p : Pattern} {ok : Char → Bool} (hp : p.Coarse) (hok : IsCoarse ok)
    (h : p.marked ok = true) {m : List Char} (hm : p.Covers m) : ∃ x ∈ m, ok x = true := by
  induction p generalizing m with
  | empty => cases h
  | one ok' =>
    cases hm with
    | @one _ c hc =>
      have hall := (IsCoarse.or (IsCoarse.not hp) hok).of_all h c
      exact ⟨c, List.mem_singleton_self c, by simpa [hc] using hall⟩
  | seq p q ihp ihq =>
    cases hm with
    | seq hp' hq' =>
      rcases Bool.or_eq_true_iff.mp h with h | h
      · obtain ⟨x, hx, hokx⟩ := ihp hp.1 h hp'
        exact ⟨x, List.mem_append_left _ hx, hokx⟩
      · obtain ⟨x, hx, hokx⟩ := ihq hp.2 h hq'
        exact ⟨x, List.mem_append_right _ hx, hokx⟩
  | alt p q ihp ihq =>
    obtain ⟨hl, hr⟩ := Bool.and_eq_true_iff.mp h
    cases hm with
    | altLeft hm => exact ihp hp.1 hl hm
    | altRight hm => exact ihq hp.2 hr hm
  | many p => cases h
  | fewest p => cases h

/-! ## Order of the rests -/

/-- Less is left in the first of two texts, and the second starts with a character at
which a match of the pattern may go on. -/
def Before (p : Pattern) (t u : List Char) : Prop :=
  t.length < u.length ∧ ∃ c v, u = c :: v ∧ p.goesOn c = true

theorem Before.mono {p q : Pattern} {t u : List Char} (hb : p.Before t u)
    (h : ∀ c, p.goesOn c = true → q.goesOn c = true) : q.Before t u := by
  obtain ⟨hlt, c, v, hu, hc⟩ := hb
  exact ⟨hlt, c, v, hu, h c hc⟩

/-- Where a pattern does not start, it takes nothing. -/
theorem eq_of_mem_rests {p : Pattern} {c : Char} (hc : p.starts c = false) {s t : List Char}
    (h : t ∈ p.rests (c :: s)) : t = c :: s ∧ p.nullable = true := by
  obtain ⟨m, hm, hcovers⟩ := covers_of_mem_rests h
  cases m with
  | nil => exact ⟨hm.symm, hcovers.nullable_of_nil rfl⟩
  | cons d m =>
    obtain ⟨rfl, _⟩ := List.cons.inj hm
    exact (not_covers_cons hc m hcovers).elim

section
variable {p q : Pattern}

theorem pairwise_seq (hp : ∀ s, (p.rests s).Pairwise p.Before)
    (hq : ∀ s, (q.rests s).Pairwise q.Before)
    (hstop : ∀ c, p.goesOn c = true → q.starts c = false) (s : List Char) :
    ((seq p q).rests s).Pairwise (seq p q).Before := by
  rw [rests, List.pairwise_flatMap]
  constructor
  · intro t _
    exact (hq t).imp fun hb => hb.mono fun c hc => by simp [goesOn, hc]
  · refine (hp s).imp ?_
    rintro t t' ⟨hlt, c, w, rfl, hc⟩ u hu v hv
    -- Behind a match that is not the longest the second pattern takes nothing.
    obtain ⟨rfl, hnull⟩ := eq_of_mem_rests (hstop c hc) hv
    exact ⟨Nat.lt_of_le_of_lt (length_le_of_mem_rests hu) hlt, c, w, rfl,
      by simp [goesOn, hc, hnull]⟩

theorem pairwise_alt (hp : ∀ s, (p.rests s).Pairwise p.Before)
    (hq : ∀ s, (q.rests s).Pairwise q.Before)
    (hboth : ∀ s t u, t ∈ p.rests s → u ∈ q.rests s → (alt p q).Before t u) (s : List Char) :
    ((alt p q).rests s).Pairwise (alt p q).Before := by
  rw [rests, List.pairwise_append]
  refine ⟨(hp s).imp ?_, (hq s).imp ?_, fun t ht u hu => hboth s t u ht hu⟩
  · exact fun hb => hb.mono fun c hc => by simp [goesOn, hc]
  · exact fun hb => hb.mono fun c hc => by simp [goesOn, hc]

theorem before_of_apart (hp : p.Coarse) (hq : q.Coarse) (h : p.apart q = true)
    {s t u : List Char} (ht : t ∈ p.rests s) (hu : u ∈ q.rests s) : (alt p q).Before t u := by
  simp only [apart, Bool.and_eq_true, Bool.not_eq_true'] at h
  obtain ⟨hnull, hstarts⟩ := h
  have hlt := length_lt_of_mem_rests hnull ht
  obtain ⟨m, rfl, hm⟩ := covers_of_mem_rests ht
  obtain ⟨c, m, rfl, hc⟩ := hm.exists_cons hnull
  have hapart := ((isCoarse_starts hp).and (isCoarse_starts hq)).not.of_all hstarts c
  obtain ⟨rfl, hqnull⟩ := eq_of_mem_rests (by simpa [hc] using hapart) hu
  exact ⟨hlt, c, m ++ t, rfl, by simp [goesOn, hc, hqnull]⟩

theorem before_of_marked (hp : p.Coarse) (hq : q.Coarse) (hapart : p.apart q = false)
    (h : p.marked q.avoids = true) {s t u : List Char} (ht : t ∈ p.rests s)
    (hu : u ∈ q.rests s) : (alt p q).Before t u := by
  obtain ⟨m, rfl, hm⟩ := covers_of_mem_rests ht
  obtain ⟨n, hn, hqn⟩ := covers_of_mem_rests hu
  obtain ⟨x, hx, havoids⟩ := exists_mem_of_marked hp (isCoarse_avoids hq) h hm
  have hlt : t.length < u.length := by
    by_contra hle
    have hlength := congrArg List.length hn
    simp only [List.length_append] at hlength
    have hpre : m <+: n :=
      List.prefix_of_prefix_length_le (List.prefix_append m t) ⟨u, hn.symm⟩ (by omega)
    rw [hqn.avoids_eq_false (hpre.subset hx)] at havoids
    cases havoids
  cases u with
  | nil => simp at hlt
  | cons c v => exact ⟨hlt, c, v, rfl, by simp [goesOn, hapart]⟩

/-- Of a pattern whose end is settled there is one rest at most. -/
theorem rests_of_determined (hp : p.Coarse) (h : p.determined = true)
    (hsorted : ∀ s, (p.rests s).Pairwise p.Before) (s : List Char) :
    p.rests s = [] ∨ ∃ t, p.rests s = [t] := by
  have hs := hsorted s
  match hrests : p.rests s with
  | [] => exact .inl rfl
  | [t] => exact .inr ⟨t, rfl⟩
  | t :: u :: rest =>
    rw [hrests] at hs
    obtain ⟨_, c, v, _, hc⟩ := (List.pairwise_cons.mp hs).1 u List.mem_cons_self
    have hstop := (isCoarse_goesOn hp).not.of_all h c
    simp [hc] at hstop

theorem pairwise_many (hnull : p.nullable = false)
    (hone : ∀ s, p.rests s = [] ∨ ∃ t, p.rests s = [t]) (ruler s : List Char) :
    (manyRests p.rests ruler s).Pairwise (many p).Before := by
  induction ruler generalizing s with
  | nil => exact List.pairwise_singleton _ _
  | cons _ ruler ih =>
    rcases hone s with hs | ⟨t, hs⟩
    · simp [manyRests, hs]
    · have ht : t ∈ p.rests s := by simp [hs]
      have hlt := length_lt_of_mem_rests hnull ht
      obtain ⟨m, rfl, hm⟩ := covers_of_mem_rests ht
      rw [manyRests, hs, List.flatMap_singleton, List.pairwise_append]
      refine ⟨ih t, List.pairwise_singleton _ _, ?_⟩
      intro u hu v hv
      obtain rfl := List.mem_singleton.mp hv
      have hle := length_le_of_mem_manyRests hu
      obtain ⟨c, m, rfl, hc⟩ := hm.exists_cons hnull
      exact ⟨by omega, c, m ++ t, rfl, hc⟩

end

/-- The computed condition holds of patterns that prefer the longest match. -/
theorem pairwise_rests {p : Pattern} (hp : p.Coarse) (h : p.takesLongest = true)
    (s : List Char) : (p.rests s).Pairwise p.Before := by
  induction p generalizing s with
  | empty => exact List.pairwise_singleton _ _
  | one ok =>
    cases s with
    | nil => exact .nil
    | cons c s => by_cases hc : ok c = true <;> simp [rests, hc]
  | seq p q ihp ihq =>
    simp only [takesLongest, Bool.and_eq_true] at h
    obtain ⟨⟨hlp, hlq⟩, hstop⟩ := h
    refine pairwise_seq (ihp hp.1 hlp) (ihq hp.2 hlq) ?_ s
    intro c hc
    have hall := ((isCoarse_goesOn hp.1).and (isCoarse_starts hp.2)).not.of_all hstop c
    simpa [hc] using hall
  | alt p q ihp ihq =>
    simp only [takesLongest, Bool.and_eq_true, Bool.or_eq_true] at h
    obtain ⟨⟨hlp, hlq⟩, hsplit⟩ := h
    refine pairwise_alt (ihp hp.1 hlp) (ihq hp.2 hlq) ?_ s
    intro s t u ht hu
    cases hapart : p.apart q with
    | true => exact before_of_apart hp.1 hp.2 hapart ht hu
    | false =>
      have hmarked : p.marked q.avoids = true := by simpa [hapart] using hsplit
      exact before_of_marked hp.1 hp.2 hapart hmarked ht hu
  | many p ih =>
    simp only [takesLongest, Bool.and_eq_true, Bool.not_eq_true'] at h
    obtain ⟨⟨hnull, hl⟩, hdet⟩ := h
    exact pairwise_many hnull (rests_of_determined hp hdet (ih hp hl)) s s
  | fewest p => cases h

/-! ## The longest match -/

/-- Of two rests the preferred one is the shorter. -/
def LongestFirst (p : Pattern) : Prop :=
  ∀ s, (p.rests s).Pairwise fun t u => t.length < u.length

theorem longestFirst_of_takesLongest {p : Pattern} (hp : p.Coarse)
    (h : p.takesLongest = true) : p.LongestFirst := fun s =>
  (pairwise_rests hp h s).imp And.left

/-- If no covered text in front goes beyond this one, its match is the preferred. -/
theorem LongestFirst.head?_rests {p : Pattern} (h : p.LongestFirst) {m t : List Char}
    (hm : p.Covers m) (hmax : ∀ n, n <+: m ++ t → p.Covers n → n.length ≤ m.length) :
    (p.rests (m ++ t)).head? = some t := by
  obtain ⟨before, after, hrests⟩ := List.append_of_mem (mem_rests_of_covers m t hm)
  have hsorted := h (m ++ t)
  cases before with
  | nil => rw [hrests]; rfl
  | cons u before =>
    rw [hrests, List.cons_append, List.pairwise_cons] at hsorted
    have hlt := hsorted.1 t (by simp)
    have hu : u ∈ p.rests (m ++ t) := by simp [hrests]
    obtain ⟨n, hn, hcovers⟩ := covers_of_mem_rests hu
    have hle := hmax n ⟨u, hn.symm⟩ hcovers
    have hlength := congrArg List.length hn
    simp only [List.length_append] at hlength
    omega

/-- Where the end of a match is settled by the text, one covered text stands in
front. -/
theorem eq_of_determined {p : Pattern} (hp : p.Coarse) (h : p.takesLongest = true)
    (hdet : p.determined = true) {m n s : List Char} (hm : p.Covers m) (hn : p.Covers n)
    (hms : m <+: s) (hns : n <+: s) : m = n := by
  obtain ⟨t, rfl⟩ := hms
  obtain ⟨u, hu⟩ := hns
  have ht := mem_rests_of_covers m t hm
  have hu' := mem_rests_of_covers n u hn
  rw [hu] at hu'
  rcases rests_of_determined hp hdet (pairwise_rests hp h) (m ++ t) with hnil | ⟨v, hv⟩
  · rw [hnil] at ht
    cases ht
  · rw [hv, List.mem_singleton] at ht hu'
    rw [ht, ← hu'] at hu
    exact (List.append_cancel_right hu).symm

/-! ## Patterns whose longest match is preferred for another reason -/

theorem longestFirst_lit (w : String) : (lit w).LongestFirst := by
  intro s
  rw [rests_lit]
  split_ifs
  · exact List.pairwise_singleton _ _
  · exact .nil

theorem rests_choice (ws : List String) (s : List Char) :
    (choice ws).rests s = ws.flatMap fun w => (lit w).rests s := by
  induction ws with
  | nil => cases s <;> rfl
  | cons w ws ih =>
    cases ws with
    | nil => simp [choice]
    | cons v ws =>
      have hchoice : choice (w :: v :: ws) = alt (lit w) (choice (v :: ws)) := rfl
      rw [hchoice, rests, ih]
      rfl

/-- Texts of which none is the front of a later one. -/
theorem longestFirst_choice {ws : List String}
    (h : ws.Pairwise fun v w => ¬v.toList <+: w.toList) : (choice ws).LongestFirst := by
  intro s
  rw [rests_choice, List.pairwise_flatMap]
  constructor
  · exact fun w _ => longestFirst_lit w s
  · refine h.imp ?_
    intro v w hvw t ht u hu
    obtain ⟨hv, rfl⟩ : v.toList <+: s ∧ t = s.drop v.toList.length := by
      simpa [rests_lit] using ht
    obtain ⟨hw, rfl⟩ : w.toList <+: s ∧ u = s.drop w.toList.length := by
      simpa [rests_lit] using hu
    have hlt : w.toList.length < v.toList.length := by
      by_contra hle
      exact hvw (List.prefix_of_prefix_length_le hv hw (by omega))
    have hlength := hv.length_le
    rw [List.length_drop, List.length_drop]
    omega

/-- A run of one class, whatever the class. -/
theorem longestFirst_many_one (ok : Char → Bool) : (many (one ok)).LongestFirst := by
  have hone (s : List Char) : (one ok).rests s = [] ∨ ∃ t, (one ok).rests s = [t] := by
    cases s with
    | nil => exact .inl rfl
    | cons c s => by_cases hc : ok c = true <;> simp [rests, hc]
  exact fun s => (pairwise_many rfl hone s s).imp And.left

theorem LongestFirst.one_seq {q : Pattern} (h : q.LongestFirst) (ok : Char → Bool) :
    (seq (one ok) q).LongestFirst := by
  intro s
  cases s with
  | nil => exact .nil
  | cons c s =>
    by_cases hc : ok c = true
    · simpa [rests, hc] using h s
    · simp [rests, hc]

/-- An optional front is a choice of the whole. -/
theorem rests_opt_seq (p q : Pattern) (s : List Char) :
    (seq (opt p) q).rests s = (alt (seq p q) q).rests s := by
  simp [opt, rests]

end Pattern

end ConceptInventory
