import ConceptInventory.Pattern.Basic

/-!
# What patterns match

Two readings of a pattern that need no continuation. The rests of a text are
what its possible matches leave, in order of preference; a match takes the
first rest that the continuation accepts. The language of a pattern is the set
of texts it covers as a whole, without any order.
-/
namespace ConceptInventory.Pattern

/-- Rests after rounds of a step, most rounds first. -/
def manyRests (step : List Char → List (List Char)) : List Char → List Char → List (List Char)
  | [], s => [s]
  | _ :: ruler, s => (step s).flatMap (manyRests step ruler) ++ [s]

/-- Rests after rounds of a step, fewest rounds first. -/
def fewestRests (step : List Char → List (List Char)) : List Char → List Char → List (List Char)
  | [], s => [s]
  | _ :: ruler, s => s :: (step s).flatMap (fewestRests step ruler)

/-- What is left after each way of matching, the preferred way first. -/
def rests : Pattern → List Char → List (List Char)
  | empty, s => [s]
  | one _, [] => []
  | one ok, c :: s => if ok c then [s] else []
  | seq p q, s => (p.rests s).flatMap q.rests
  | alt p q, s => p.rests s ++ q.rests s
  | many p, s => manyRests p.rests s s
  | fewest p, s => fewestRests p.rests s s

/-- The texts a pattern covers as a whole. -/
inductive Covers : Pattern → List Char → Prop
  | empty : Covers empty []
  | one {ok : Char → Bool} {c : Char} (h : ok c = true) : Covers (one ok) [c]
  | seq {p q : Pattern} {s t : List Char} (hp : Covers p s) (hq : Covers q t) :
      Covers (seq p q) (s ++ t)
  | altLeft {p q : Pattern} {s : List Char} (h : Covers p s) : Covers (alt p q) s
  | altRight {p q : Pattern} {s : List Char} (h : Covers q s) : Covers (alt p q) s
  | manyNone {p : Pattern} : Covers (many p) []
  | manyMore {p : Pattern} {s t : List Char} (h : Covers p s) (ht : Covers (many p) t) :
      Covers (many p) (s ++ t)
  | fewestNone {p : Pattern} : Covers (fewest p) []
  | fewestMore {p : Pattern} {s t : List Char} (h : Covers p s) (ht : Covers (fewest p) t) :
      Covers (fewest p) (s ++ t)

/-- A literal text matches where it is a prefix. -/
theorem rests_lit (w : String) (s : List Char) :
    (lit w).rests s = if w.toList <+: s then [s.drop w.toList.length] else [] := by
  simp only [lit, char]
  generalize w.toList = word
  induction word generalizing s with
  | nil => simp [rests]
  | cons c word ih =>
    cases s with
    | nil => simp [rests]
    | cons d s =>
      by_cases h : d = c
      · subst h
        have hprefix : d :: word <+: d :: s ↔ word <+: s := by simp [List.cons_prefix_cons]
        simp only [List.foldr_cons, rests, beq_self_eq_true, if_true, List.flatMap_singleton,
          ih, hprefix, List.length_cons, List.drop_succ_cons]
      · have hprefix : ¬c :: word <+: d :: s := by
          intro hpre
          exact h (List.cons_prefix_cons.mp hpre).1.symm
        simp [rests, h, hprefix]

section
variable {α : Type}

theorem findSome?_flatMap (f : List Char → List (List Char)) (k : List Char → Option α)
    (l : List (List Char)) :
    (l.flatMap f).findSome? k = l.findSome? fun s => (f s).findSome? k := by
  induction l with
  | nil => rfl
  | cons s l ih =>
    rw [List.flatMap_cons, List.findSome?_append, List.findSome?_cons, ih]
    cases (f s).findSome? k <;> rfl

/-- The first rest a continuation accepts. -/
def firstAccepted (k : Rest → Option α) (rests : List (List Char)) : Option α :=
  rests.findSome? fun r => k (.of r)

theorem firstAccepted_append (k : Rest → Option α) (as bs : List (List Char)) :
    firstAccepted k (as ++ bs) = (firstAccepted k as).orElse fun _ => firstAccepted k bs := by
  rw [firstAccepted, List.findSome?_append]
  cases h : as.findSome? fun r => k (.of r) <;> simp [firstAccepted, h]

theorem firstAccepted_flatMap (k : Rest → Option α) (f : List Char → List (List Char))
    (as : List (List Char)) :
    firstAccepted k (as.flatMap f)
      = as.findSome? fun s => firstAccepted k (f s) := findSome?_flatMap f _ as

theorem greedily_eq_firstAccepted {step : Matcher α} {rests : List Char → List (List Char)}
    (h : ∀ s k, step (.of s) k = firstAccepted k (rests s)) (ruler s : List Char)
    (k : Rest → Option α) :
    greedily step ruler (.of s) k = firstAccepted k (manyRests rests ruler s) := by
  induction ruler generalizing s k with
  | nil => simp [greedily, manyRests, firstAccepted]
  | cons _ ruler ih =>
    have hs : firstAccepted (fun r => greedily step ruler r k) (rests s)
        = firstAccepted k ((rests s).flatMap (manyRests rests ruler)) := by
      rw [firstAccepted_flatMap, firstAccepted]
      congr
      funext r
      exact ih r k
    rw [greedily, manyRests, h, hs, firstAccepted_append]
    simp [firstAccepted]

theorem lazily_eq_firstAccepted {step : Matcher α} {rests : List Char → List (List Char)}
    (h : ∀ s k, step (.of s) k = firstAccepted k (rests s)) (ruler s : List Char)
    (k : Rest → Option α) :
    lazily step ruler (.of s) k = firstAccepted k (fewestRests rests ruler s) := by
  induction ruler generalizing s k with
  | nil => simp [lazily, fewestRests, firstAccepted]
  | cons _ ruler ih =>
    have hs : firstAccepted (fun r => lazily step ruler r k) (rests s)
        = firstAccepted k ((rests s).flatMap (fewestRests rests ruler)) := by
      rw [firstAccepted_flatMap, firstAccepted]
      congr
      funext r
      exact ih r k
    rw [lazily, fewestRests, h, hs]
    cases hk : k (.of s) <;> simp [firstAccepted, hk]

/-- A match takes the first rest its continuation accepts. -/
theorem run_eq_firstAccepted (p : Pattern) (s : List Char) (k : Rest → Option α) :
    p.run (.of s) k = firstAccepted k (p.rests s) := by
  induction p generalizing s k with
  | empty => simp [run, rests, firstAccepted]
  | one ok =>
    cases s with
    | nil => rfl
    | cons c s => by_cases h : ok c <;> simp [run, rests, firstAccepted, h]
  | seq p q ihp ihq =>
    rw [run, rests, ihp, firstAccepted_flatMap, firstAccepted]
    congr
    funext r
    exact ihq r k
  | alt p q ihp ihq => rw [run, rests, ihp, ihq, firstAccepted_append]
  | many p ih => exact greedily_eq_firstAccepted ih s s k
  | fewest p ih => exact lazily_eq_firstAccepted ih s s k

end

/-! ## Rests and languages -/

theorem covers_manyRests {p : Pattern}
    (h : ∀ s t, t ∈ p.rests s → ∃ m, s = m ++ t ∧ p.Covers m) (ruler : List Char)
    {s t : List Char} (ht : t ∈ manyRests p.rests ruler s) :
    ∃ m, s = m ++ t ∧ (many p).Covers m := by
  induction ruler generalizing s with
  | nil =>
    obtain rfl : t = s := by simpa [manyRests] using ht
    exact ⟨[], rfl, .manyNone⟩
  | cons _ ruler ih =>
    simp only [manyRests, List.mem_append, List.mem_flatMap, List.mem_singleton] at ht
    rcases ht with ⟨r, hr, htr⟩ | rfl
    · obtain ⟨m, rfl, hm⟩ := h s r hr
      obtain ⟨n, rfl, hn⟩ := ih htr
      exact ⟨m ++ n, by simp, .manyMore hm hn⟩
    · exact ⟨[], rfl, .manyNone⟩

theorem covers_fewestRests {p : Pattern}
    (h : ∀ s t, t ∈ p.rests s → ∃ m, s = m ++ t ∧ p.Covers m) (ruler : List Char)
    {s t : List Char} (ht : t ∈ fewestRests p.rests ruler s) :
    ∃ m, s = m ++ t ∧ (fewest p).Covers m := by
  induction ruler generalizing s with
  | nil =>
    obtain rfl : t = s := by simpa [fewestRests] using ht
    exact ⟨[], rfl, .fewestNone⟩
  | cons _ ruler ih =>
    simp only [fewestRests, List.mem_cons, List.mem_flatMap] at ht
    rcases ht with rfl | ⟨r, hr, htr⟩
    · exact ⟨[], rfl, .fewestNone⟩
    · obtain ⟨m, rfl, hm⟩ := h s r hr
      obtain ⟨n, rfl, hn⟩ := ih htr
      exact ⟨m ++ n, by simp, .fewestMore hm hn⟩

/-- Every rest is what a covered text in front of it leaves. -/
theorem covers_of_mem_rests {p : Pattern} {s t : List Char} (ht : t ∈ p.rests s) :
    ∃ m, s = m ++ t ∧ p.Covers m := by
  induction p generalizing s t with
  | empty =>
    obtain rfl : t = s := by simpa [rests] using ht
    exact ⟨[], rfl, .empty⟩
  | one ok =>
    cases s with
    | nil => simp [rests] at ht
    | cons c s =>
      by_cases h : ok c
      · obtain rfl : t = s := by simpa [rests, h] using ht
        exact ⟨[c], rfl, .one h⟩
      · simp [rests, h] at ht
  | seq p q ihp ihq =>
    obtain ⟨r, hr, htr⟩ := List.mem_flatMap.1 ht
    obtain ⟨m, rfl, hm⟩ := ihp hr
    obtain ⟨n, rfl, hn⟩ := ihq htr
    exact ⟨m ++ n, by simp, .seq hm hn⟩
  | alt p q ihp ihq =>
    rcases List.mem_append.1 ht with h | h
    · obtain ⟨m, hs, hm⟩ := ihp h
      exact ⟨m, hs, .altLeft hm⟩
    · obtain ⟨m, hs, hm⟩ := ihq h
      exact ⟨m, hs, .altRight hm⟩
  | many p ih => exact covers_manyRests (fun s t h => ih h) s ht
  | fewest p ih => exact covers_fewestRests (fun s t h => ih h) s ht

theorem mem_manyRests {p q : Pattern} (h : ∀ m t, p.Covers m → t ∈ p.rests (m ++ t))
    {m : List Char} (hm : q.Covers m) (hq : q = many p) {ruler : List Char}
    (hr : m.length ≤ ruler.length) (t : List Char) : t ∈ manyRests p.rests ruler (m ++ t) := by
  induction hm generalizing ruler with
  | manyNone => cases ruler <;> simp [manyRests]
  | @manyMore p' u v hu _ _ ih =>
    obtain rfl : p' = p := by simpa using hq
    cases u with
    | nil => exact ih rfl (by simpa using hr)
    | cons c u =>
      cases ruler with
      | nil => simp at hr
      | cons _ ruler =>
        have hv : t ∈ manyRests p'.rests ruler (v ++ t) :=
          ih rfl (by simp only [List.cons_append, List.length_cons, List.length_append] at hr; omega)
        have hu : v ++ t ∈ p'.rests (c :: u ++ v ++ t) := by
          rw [List.append_assoc]
          exact h _ _ hu
        exact List.mem_append_left _ (List.mem_flatMap.2 ⟨_, hu, hv⟩)
  | _ => cases hq

theorem mem_fewestRests {p q : Pattern} (h : ∀ m t, p.Covers m → t ∈ p.rests (m ++ t))
    {m : List Char} (hm : q.Covers m) (hq : q = fewest p) {ruler : List Char}
    (hr : m.length ≤ ruler.length) (t : List Char) : t ∈ fewestRests p.rests ruler (m ++ t) := by
  induction hm generalizing ruler with
  | fewestNone => cases ruler <;> simp [fewestRests]
  | @fewestMore p' u v hu _ _ ih =>
    obtain rfl : p' = p := by simpa using hq
    cases u with
    | nil => exact ih rfl (by simpa using hr)
    | cons c u =>
      cases ruler with
      | nil => simp at hr
      | cons _ ruler =>
        have hv : t ∈ fewestRests p'.rests ruler (v ++ t) :=
          ih rfl (by simp only [List.cons_append, List.length_cons, List.length_append] at hr; omega)
        have hu : v ++ t ∈ p'.rests (c :: u ++ v ++ t) := by
          rw [List.append_assoc]
          exact h _ _ hu
        exact List.mem_cons_of_mem _ (List.mem_flatMap.2 ⟨_, hu, hv⟩)
  | _ => cases hq

/-- Whatever a covered text in front leaves is a rest. -/
theorem mem_rests_of_covers {p : Pattern} (m t : List Char) (hm : p.Covers m) :
    t ∈ p.rests (m ++ t) := by
  induction p generalizing m t with
  | empty =>
    cases hm
    simp [rests]
  | one ok =>
    cases hm with
    | one h => simp [rests, h]
  | seq p q ihp ihq =>
    cases hm with
    | @seq _ _ u v hu hv =>
      rw [List.append_assoc]
      exact List.mem_flatMap.2 ⟨v ++ t, ihp u _ hu, ihq v t hv⟩
  | alt p q ihp ihq =>
    cases hm with
    | altLeft h => exact List.mem_append_left _ (ihp m t h)
    | altRight h => exact List.mem_append_right _ (ihq m t h)
  | many p ih => exact mem_manyRests ih hm rfl (by simp) t
  | fewest p ih => exact mem_fewestRests ih hm rfl (by simp) t

/-- The rests of a text are what covered texts in front of it leave. -/
theorem mem_rests_iff {p : Pattern} {s t : List Char} :
    t ∈ p.rests s ↔ ∃ m, s = m ++ t ∧ p.Covers m :=
  ⟨covers_of_mem_rests, fun ⟨m, hs, hm⟩ => hs ▸ mem_rests_of_covers m t hm⟩

end ConceptInventory.Pattern
