import ConceptInventory.Pattern.Language
import Mathlib.Data.List.Basic

/-!
# Patterns at a seam

What a pattern does at the place where a text has another put behind it. If every
round of a repetition takes something, the rests that leave the other text whole
are those of the first text alone with the other behind them, in the same order.
So a pattern that covers nothing across the seam is not changed by it. A pattern
covers nothing across a character that none of its single-character parts
accepts, which is computed from the pattern, so a whole grammar is checked by
evaluation.
-/
namespace ConceptInventory.Pattern

/-- No part of the pattern accepts the character. -/
def avoids (x : Char) : Pattern → Bool
  | empty => true
  | one ok => !ok x
  | seq p q => p.avoids x && q.avoids x
  | alt p q => p.avoids x && q.avoids x
  | many p => p.avoids x
  | fewest p => p.avoids x

/-- The pattern covers the empty text. -/
def nullable : Pattern → Bool
  | empty => true
  | one _ => false
  | seq p q => p.nullable && q.nullable
  | alt p q => p.nullable || q.nullable
  | many _ => true
  | fewest _ => true

/-- Every round of a repetition takes something. -/
def steady : Pattern → Bool
  | empty => true
  | one _ => true
  | seq p q => p.steady && q.steady
  | alt p q => p.steady && q.steady
  | many p => !p.nullable && p.steady
  | fewest p => !p.nullable && p.steady

/-- No text the pattern covers has fewer characters. -/
def shortest : Pattern → Nat
  | empty => 0
  | one _ => 1
  | seq p q => p.shortest + q.shortest
  | alt p q => min p.shortest q.shortest
  | many _ => 0
  | fewest _ => 0

/-- A text the pattern covers may start with the character. -/
def starts (x : Char) : Pattern → Bool
  | empty => false
  | one ok => ok x
  | seq p q => p.starts x || (p.nullable && q.starts x)
  | alt p q => p.starts x || q.starts x
  | many p => p.starts x
  | fewest p => p.starts x

/-- A text the pattern covers may end with the character. -/
def ends (x : Char) : Pattern → Bool
  | empty => false
  | one ok => ok x
  | seq p q => q.ends x || (q.nullable && p.ends x)
  | alt p q => p.ends x || q.ends x
  | many p => p.ends x
  | fewest p => p.ends x

/-! ## Covered texts -/

theorem Covers.nullable_of_nil {p : Pattern} {m : List Char} (h : p.Covers m) (hm : m = []) :
    p.nullable = true := by
  induction h with
  | empty => rfl
  | one _ => cases hm
  | seq _ _ ihp ihq =>
    obtain ⟨hs, ht⟩ := List.append_eq_nil_iff.mp hm
    simp only [nullable, ihp hs, ihq ht, Bool.and_true]
  | altLeft _ ih => simp only [nullable, ih hm, Bool.true_or]
  | altRight _ ih => simp only [nullable, ih hm, Bool.or_true]
  | manyNone => rfl
  | manyMore _ _ _ _ => rfl
  | fewestNone => rfl
  | fewestMore _ _ _ _ => rfl

theorem Covers.shortest_le {p : Pattern} {m : List Char} (h : p.Covers m) :
    p.shortest ≤ m.length := by
  induction h with
  | empty => exact Nat.le_refl _
  | one _ => exact Nat.le_refl _
  | seq _ _ ihp ihq =>
    rw [shortest, List.length_append]
    omega
  | altLeft _ ih => exact Nat.le_trans (Nat.min_le_left _ _) ih
  | altRight _ ih => exact Nat.le_trans (Nat.min_le_right _ _) ih
  | manyNone | manyMore _ _ _ _ | fewestNone | fewestMore _ _ _ _ => exact Nat.zero_le _

theorem Covers.starts_of_cons {p : Pattern} {m : List Char} (h : p.Covers m) {x : Char}
    {rest : List Char} (hm : m = x :: rest) : p.starts x = true := by
  induction h generalizing rest with
  | empty => cases hm
  | one hok =>
    obtain rfl : _ = x := (List.cons.inj hm).1
    exact hok
  | @seq p q s t hp _ ihp ihq =>
    cases s with
    | nil => simp only [starts, hp.nullable_of_nil rfl, ihq hm, Bool.true_and, Bool.or_true]
    | cons c s =>
      obtain rfl : c = x := (List.cons.inj hm).1
      simp only [starts, ihp rfl, Bool.true_or]
  | altLeft _ ih => simp only [starts, ih hm, Bool.true_or]
  | altRight _ ih => simp only [starts, ih hm, Bool.or_true]
  | manyNone => cases hm
  | @manyMore p s t _ _ ihp iht =>
    cases s with
    | nil => exact iht hm
    | cons c s =>
      obtain rfl : c = x := (List.cons.inj hm).1
      exact ihp rfl
  | fewestNone => cases hm
  | @fewestMore p s t _ _ ihp iht =>
    cases s with
    | nil => exact iht hm
    | cons c s =>
      obtain rfl : c = x := (List.cons.inj hm).1
      exact ihp rfl

theorem Covers.ends_of_getLast? {p : Pattern} {m : List Char} (h : p.Covers m) {x : Char}
    (hm : m.getLast? = some x) : p.ends x = true := by
  induction h with
  | empty => cases hm
  | one hok =>
    obtain rfl : _ = x := Option.some.inj hm
    exact hok
  | @seq p q s t _ hq ihp ihq =>
    rw [List.getLast?_append] at hm
    cases ht : t.getLast? with
    | none =>
      rw [ht, Option.none_or] at hm
      simp [ends, hq.nullable_of_nil (List.getLast?_eq_none_iff.mp ht), ihp hm]
    | some y =>
      rw [ht, Option.some_or] at hm
      simp [ends, ihq (ht.trans hm)]
  | altLeft _ ih => simp [ends, ih hm]
  | altRight _ ih => simp [ends, ih hm]
  | manyNone => cases hm
  | @manyMore p s t _ _ ihp iht =>
    rw [List.getLast?_append] at hm
    cases ht : t.getLast? with
    | none =>
      rw [ht, Option.none_or] at hm
      exact ihp hm
    | some y =>
      rw [ht, Option.some_or] at hm
      exact iht (ht.trans hm)
  | fewestNone => cases hm
  | @fewestMore p s t _ _ ihp iht =>
    rw [List.getLast?_append] at hm
    cases ht : t.getLast? with
    | none =>
      rw [ht, Option.none_or] at hm
      exact ihp hm
    | some y =>
      rw [ht, Option.some_or] at hm
      exact iht (ht.trans hm)

/-- A covered text holds no character the pattern avoids. -/
theorem Covers.avoids_eq_false {p : Pattern} {m : List Char} (h : p.Covers m) {x : Char}
    (hx : x ∈ m) : p.avoids x = false := by
  induction h with
  | empty => cases hx
  | one hok =>
    obtain rfl := List.mem_singleton.mp hx
    simp [avoids, hok]
  | seq _ _ ihp ihq =>
    rcases List.mem_append.mp hx with hx | hx
    · simp [avoids, ihp hx]
    · simp [avoids, ihq hx]
  | altLeft _ ih => simp [avoids, ih hx]
  | altRight _ ih => simp [avoids, ih hx]
  | manyNone => cases hx
  | manyMore _ _ ihp iht =>
    rcases List.mem_append.mp hx with hx | hx
    · exact ihp hx
    · exact iht hx
  | fewestNone => cases hx
  | fewestMore _ _ ihp iht =>
    rcases List.mem_append.mp hx with hx | hx
    · exact ihp hx
    · exact iht hx

theorem length_le_of_mem_rests {p : Pattern} {s t : List Char} (h : t ∈ p.rests s) :
    t.length ≤ s.length := by
  obtain ⟨m, rfl, _⟩ := covers_of_mem_rests h
  simp

theorem length_le_of_mem_manyRests {p : Pattern} {ruler s t : List Char}
    (h : t ∈ manyRests p.rests ruler s) : t.length ≤ s.length := by
  obtain ⟨m, rfl, _⟩ := covers_manyRests (fun _ _ h => covers_of_mem_rests h) ruler h
  simp

theorem length_le_of_mem_fewestRests {p : Pattern} {ruler s t : List Char}
    (h : t ∈ fewestRests p.rests ruler s) : t.length ≤ s.length := by
  obtain ⟨m, rfl, _⟩ := covers_fewestRests (fun _ _ h => covers_of_mem_rests h) ruler h
  simp

/-- Behind a match that takes something, less is left. -/
theorem length_lt_of_mem_rests {p : Pattern} (h : p.nullable = false) {s t : List Char}
    (ht : t ∈ p.rests s) : t.length < s.length := by
  obtain ⟨m, rfl, hm⟩ := covers_of_mem_rests ht
  cases m with
  | nil => simp [hm.nullable_of_nil rfl] at h
  | cons c m =>
    rw [List.length_append, List.length_cons]
    omega

/-! ## Rests that spare a text -/

/-- What is left still holds the text behind the seam. -/
def spares (w t : List Char) : Bool := w.length ≤ t.length

theorem spares_append (s w : List Char) : spares w (s ++ w) = true := by
  simp [spares]

/-- A rest that does not spare the text leads to no other that does. -/
theorem filter_flatMap_spares {f : List Char → List (List Char)}
    (hshort : ∀ t u, u ∈ f t → u.length ≤ t.length) (w : List Char) (xs : List (List Char)) :
    (xs.flatMap f).filter (spares w)
      = (xs.filter (spares w)).flatMap fun t => (f t).filter (spares w) := by
  induction xs with
  | nil => rfl
  | cons t xs ih =>
    rw [List.flatMap_cons, List.filter_append, ih]
    by_cases ht : spares w t = true
    · rw [List.filter_cons_of_pos ht, List.flatMap_cons]
    · have hnil : (f t).filter (spares w) = [] := by
        rw [List.filter_eq_nil_iff]
        intro u hu hspares
        have hle := hshort t u hu
        simp only [spares, decide_eq_true_eq] at ht hspares
        omega
      rw [List.filter_cons_of_neg ht, hnil, List.nil_append]

theorem filter_flatMap_append {f : List Char → List (List Char)} {w : List Char}
    {xs ys : List (List Char)} (hshort : ∀ t u, u ∈ f t → u.length ≤ t.length)
    (hf : ∀ t, (f (t ++ w)).filter (spares w) = (f t).map (· ++ w))
    (h : xs.filter (spares w) = ys.map (· ++ w)) :
    (xs.flatMap f).filter (spares w) = (ys.flatMap f).map (· ++ w) := by
  rw [filter_flatMap_spares hshort, h, List.flatMap_map, List.map_flatMap]
  apply List.flatMap_congr
  intro t _
  exact hf t

/-! ## Rounds -/

section
variable {step : List Char → List (List Char)}

theorem step_nil (hstep : ∀ s t, t ∈ step s → t.length < s.length) : step [] = [] := by
  cases hs : step [] with
  | nil => rfl
  | cons t ts =>
    have hlt := hstep [] t (by simp [hs])
    simp at hlt

/-- The two repetitions go round by round in the same way; they join the rest of
the text to the rests behind one more round at different ends. -/
structure Rounds (step : List Char → List (List Char))
    (join : List Char → List (List Char) → List (List Char))
    (rounds : List Char → List Char → List (List Char)) : Prop where
  nil (s : List Char) : rounds [] s = [s]
  cons (c : Char) (ruler s : List Char) :
    rounds (c :: ruler) s = join s ((step s).flatMap (rounds ruler))
  join_nil (s : List Char) : join s [] = [s]
  join_append (s w : List Char) (rests : List (List Char)) :
    join (s ++ w) (rests.map (· ++ w)) = (join s rests).map (· ++ w)

theorem manyRounds (step : List Char → List (List Char)) :
    Rounds step (fun s rests => rests ++ [s]) (manyRests step) where
  nil _ := rfl
  cons _ _ _ := rfl
  join_nil _ := rfl
  join_append _ _ _ := by simp

theorem fewestRounds (step : List Char → List (List Char)) :
    Rounds step (fun s rests => s :: rests) (fewestRests step) where
  nil _ := rfl
  cons _ _ _ := rfl
  join_nil _ := rfl
  join_append _ _ _ := rfl

namespace Rounds

variable {join : List Char → List (List Char) → List (List Char)}
  {rounds : List Char → List Char → List (List Char)}

theorem at_end (h : Rounds step join rounds)
    (hstep : ∀ s t, t ∈ step s → t.length < s.length) (ruler : List Char) :
    rounds ruler [] = [[]] := by
  cases ruler with
  | nil => exact h.nil []
  | cons c ruler => rw [h.cons, step_nil hstep, List.flatMap_nil, h.join_nil]

/-- A ruler as long as the text is long enough. -/
theorem ruler_eq (h : Rounds step join rounds)
    (hstep : ∀ s t, t ∈ step s → t.length < s.length) {ruler ruler' s : List Char}
    (hr : s.length ≤ ruler.length) (hr' : s.length ≤ ruler'.length) :
    rounds ruler s = rounds ruler' s := by
  induction ruler generalizing ruler' s with
  | nil =>
    obtain rfl : s = [] := by simpa using hr
    rw [h.at_end hstep, h.at_end hstep]
  | cons c ruler ih =>
    cases ruler' with
    | nil =>
      obtain rfl : s = [] := by simpa using hr'
      rw [h.at_end hstep, h.at_end hstep]
    | cons d ruler' =>
      simp only [List.length_cons] at hr hr'
      have hrest : (step s).flatMap (rounds ruler) = (step s).flatMap (rounds ruler') := by
        apply List.flatMap_congr
        intro t ht
        have hlt := hstep s t ht
        exact ih (by omega) (by omega)
      rw [h.cons, h.cons, hrest]

/-- Behind a seam the rounds go on from those rests of a round that spare the text there. -/
theorem filter_append (h : Rounds step join rounds) {w : List Char}
    (hjoin : ∀ s rests, (join (s ++ w) rests).filter (spares w)
      = join (s ++ w) (rests.filter (spares w)))
    (hshort : ∀ ruler t u, u ∈ rounds ruler t → u.length ≤ t.length)
    (hw : ∀ s, (step (s ++ w)).filter (spares w) = (step s).map (· ++ w)) (ruler s : List Char) :
    (rounds ruler (s ++ w)).filter (spares w) = (rounds ruler s).map (· ++ w) := by
  induction ruler generalizing s with
  | nil => simp [h.nil, spares_append]
  | cons c ruler ih =>
    have hrest := filter_flatMap_append (hshort ruler) ih (hw s)
    rw [h.cons, h.cons, hjoin, hrest, h.join_append]

end Rounds

end

/-! ## The seam -/

/-- The rests that leave the text behind whole are those of the text in front of it. -/
theorem filter_rests_append {p : Pattern} (hs : p.steady = true) (s w : List Char) :
    (p.rests (s ++ w)).filter (spares w) = (p.rests s).map (· ++ w) := by
  induction p generalizing s with
  | empty => simp [rests, spares_append]
  | one ok =>
    cases s with
    | nil =>
      cases w with
      | nil => rfl
      | cons c w => by_cases hc : ok c = true <;> simp [rests, spares, hc]
    | cons c s => by_cases hc : ok c = true <;> simp [rests, hc, spares_append]
  | seq p q ihp ihq =>
    obtain ⟨hp, hq⟩ := Bool.and_eq_true_iff.mp hs
    exact filter_flatMap_append (fun _ _ h => length_le_of_mem_rests h) (ihq hq) (ihp hp s)
  | alt p q ihp ihq =>
    obtain ⟨hp, hq⟩ := Bool.and_eq_true_iff.mp hs
    simp only [rests, List.filter_append, ihp hp, ihq hq, List.map_append]
  | many p ih =>
    simp only [steady, Bool.and_eq_true, Bool.not_eq_true'] at hs
    have hstep (s t : List Char) (ht : t ∈ p.rests s) : t.length < s.length :=
      length_lt_of_mem_rests hs.1 ht
    have hruler : manyRests p.rests (s ++ w) s = manyRests p.rests s s :=
      (manyRounds p.rests).ruler_eq hstep (by simp) (Nat.le_refl _)
    have hrounds := (manyRounds p.rests).filter_append (w := w)
      (fun _ _ => by simp [spares_append]) (fun _ _ _ h => length_le_of_mem_manyRests h) (ih hs.2)
    rw [rests, hrounds, hruler, rests]
  | fewest p ih =>
    simp only [steady, Bool.and_eq_true, Bool.not_eq_true'] at hs
    have hstep (s t : List Char) (ht : t ∈ p.rests s) : t.length < s.length :=
      length_lt_of_mem_rests hs.1 ht
    have hruler : fewestRests p.rests (s ++ w) s = fewestRests p.rests s s :=
      (fewestRounds p.rests).ruler_eq hstep (by simp) (Nat.le_refl _)
    have hrounds := (fewestRounds p.rests).filter_append (w := w)
      (fun _ _ => by simp [spares_append]) (fun _ _ _ h => length_le_of_mem_fewestRests h) (ih hs.2)
    rw [rests, hrounds, hruler, rests]

/-- Nothing the pattern covers reaches across the seam. -/
def StaysIn (p : Pattern) (s w : List Char) : Prop :=
  ∀ m, p.Covers m → m <+: s ++ w → m <+: s

/-- If nothing covered reaches across the seam, the text behind plays no part. -/
theorem StaysIn.rests_append {p : Pattern} {s w : List Char} (h : p.StaysIn s w)
    (hs : p.steady = true) : p.rests (s ++ w) = (p.rests s).map (· ++ w) := by
  rw [← filter_rests_append hs, List.filter_eq_self.mpr]
  intro t ht
  obtain ⟨m, hm, hcovers⟩ := covers_of_mem_rests ht
  have hle := (h m hcovers ⟨t, hm.symm⟩).length_le
  have hlength := congrArg List.length hm
  simp only [List.length_append] at hlength
  rw [spares, decide_eq_true_eq]
  omega

/-- What reaches across the seam is the text in front and something of the text behind. -/
theorem staysIn_of_covers_append {p : Pattern} {s w : List Char}
    (h : ∀ n, n <+: w → p.Covers (s ++ n) → n = []) : p.StaysIn s w := by
  intro m hm hpre
  rcases Nat.le_total m.length s.length with hle | hle
  · exact List.prefix_of_prefix_length_le hpre (List.prefix_append s w) hle
  · obtain ⟨n, rfl⟩ := List.prefix_of_prefix_length_le (List.prefix_append s w) hpre hle
    rw [List.prefix_append_right_inj] at hpre
    simp [h n hpre hm]

theorem staysIn_of_avoids {p : Pattern} {x : Char} (h : p.avoids x = true) (s b : List Char) :
    p.StaysIn s (x :: b) := by
  apply staysIn_of_covers_append
  intro n hn hcovers
  cases n with
  | nil => rfl
  | cons c n =>
    obtain rfl : c = x := (List.cons_prefix_cons.mp hn).1
    rw [hcovers.avoids_eq_false (by simp)] at h
    cases h

/-- Nothing is taken of a text of characters with which no covered text ends. -/
theorem eq_nil_of_covers_append {p : Pattern} {s n : List Char}
    (h : ∀ c ∈ n, p.ends c = false) (hcovers : p.Covers (s ++ n)) : n = [] := by
  cases hlast : n.getLast? with
  | none => exact List.getLast?_eq_none_iff.mp hlast
  | some c =>
    have hlast' : (s ++ n).getLast? = some c := by
      rw [List.getLast?_append, hlast]
      rfl
    have hends := hcovers.ends_of_getLast? hlast'
    rw [h c (List.mem_of_getLast? hlast)] at hends
    cases hends

/-! ## Runs of one class of characters -/

/-- The longest run of accepted characters is preferred. -/
theorem head?_rests_many_one (ok : Char → Bool) (s : List Char) :
    ((many (one ok)).rests s).head? = some (s.dropWhile ok) := by
  induction s with
  | nil => rfl
  | cons c s ih =>
    by_cases h : ok c = true
    · have hrest : (many (one ok)).rests (c :: s) = (many (one ok)).rests s ++ [c :: s] := by
        simp [rests, manyRests, h]
      rw [hrest, List.head?_append, ih, List.dropWhile_cons_of_pos h]
      rfl
    · have hrest : (many (one ok)).rests (c :: s) = [c :: s] := by
        simp [rests, manyRests, h]
      rw [hrest, List.dropWhile_cons_of_neg h]
      rfl

end ConceptInventory.Pattern
