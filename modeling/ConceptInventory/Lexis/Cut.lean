import ConceptInventory.Lexis.Grammar
import ConceptInventory.Pattern.Language

/-!
# Cuts of a text

Which spans a text has, said without scanning it. A rule reaches as far as its
match; the deciding rule reaches farther than all before it in the grammar and
no less far than all behind it, and where no rule reaches anywhere a character
stands alone. A cut of a text is a list of spans, each decided at its place, that
together are the text. Scanning finds the one cut there is.
-/
namespace ConceptInventory

variable {κ : Type}

namespace LexRule

/-- What the rule leaves of a text, all of it where it does not match. -/
def left (r : LexRule κ) (s : List Char) : List Char :=
  ((r.rest? (.of s)).map Rest.chars).getD s

/-- How far the rule reaches. -/
def reach (r : LexRule κ) (s : List Char) : Nat := s.length - (r.left s).length

theorem rest?_eq_find? (r : LexRule κ) (s : List Char) :
    r.rest? (.of s) = ((r.pattern.rests s).find? r.endsAt).map Rest.of := by
  simp only [rest?, Pattern.run_eq_firstAccepted, Pattern.firstAccepted, Rest.chars_of]
  induction r.pattern.rests s with
  | nil => rfl
  | cons t ts ih => by_cases h : r.endsAt t <;> simp [h, ih]

/-- A match is a covered text at the front. -/
theorem rest?_eq_append {r : LexRule κ} {s : List Char} {t : Rest}
    (h : r.rest? (.of s) = some t) : ∃ m, s = m ++ t.chars ∧ r.pattern.Covers m := by
  rw [rest?_eq_find?, Option.map_eq_some_iff] at h
  obtain ⟨u, hu, rfl⟩ := h
  exact Pattern.covers_of_mem_rests (List.mem_of_find?_eq_some hu)

theorem left_suffix (r : LexRule κ) (s : List Char) : r.left s <:+ s := by
  rw [left]
  cases h : r.rest? (.of s) with
  | none => exact List.suffix_refl s
  | some t =>
    obtain ⟨m, hm, _⟩ := rest?_eq_append h
    exact ⟨m, hm.symm⟩

theorem length_left_le (r : LexRule κ) (s : List Char) : (r.left s).length ≤ s.length :=
  (r.left_suffix s).length_le

end LexRule

/-- What a list of rules makes of the front of a text: nothing if no rule
reaches anywhere, else the first of the farthest rules and what it leaves. -/
def Decides (rules : List (LexRule κ)) (s : List Char) : Option (LexRule κ × Rest) → Prop
  | none => ∀ r ∈ rules, r.reach s = 0
  | some (r, t) => ∃ before after, rules = before ++ r :: after ∧ r.left s = t.chars
      ∧ t.size < s.length
      ∧ (∀ b ∈ before, b.reach s < r.reach s) ∧ ∀ a ∈ after, a.reach s ≤ r.reach s

namespace Grammar

/-- A list of spans is a cut of a text. -/
inductive Cut (g : Grammar κ) : List Char → List (Span κ) → Prop
  | nil : Cut g [] []
  | alone {c : Char} {rest : List Char} {spans : List (Span κ)}
      (h : Decides g.rules (c :: rest) none) (hr : Cut g rest spans) :
      Cut g (c :: rest) (⟨[c], none⟩ :: spans)
  | ruled {r : LexRule κ} {text rest : List Char} {spans : List (Span κ)}
      (h : Decides g.rules (text ++ rest) (some (r, .of rest))) (hr : Cut g rest spans) :
      Cut g (text ++ rest) (⟨text, some r⟩ :: spans)

theorem decides_better {seen : List (LexRule κ)} {s : List Char}
    {best : Option (LexRule κ × Rest)} (h : Decides seen s best) (r : LexRule κ) :
    Decides (seen ++ [r]) s (better (.of s) best r) := by
  have hle := r.length_left_le s
  have keep (hr : s.length - (r.left s).length ≤ s.length - (best.elim (.of s) Prod.snd).size) :
      Decides (seen ++ [r]) s best := by
    match best, h with
    | none, h =>
      intro q hq
      rcases List.mem_append.1 hq with hq | hq
      · exact h q hq
      · obtain rfl := List.mem_singleton.1 hq
        simpa [LexRule.reach] using hr
    | some (q, t), ⟨before, after, hd, hl, ht, hb, ha⟩ =>
      refine ⟨before, after ++ [r], by simp [hd], hl, ht, hb, fun a hm => ?_⟩
      rcases List.mem_append.1 hm with hm | hm
      · exact ha a hm
      · obtain rfl := List.mem_singleton.1 hm
        simpa [LexRule.reach, hl, t.size_eq] using hr
  cases hr : r.rest? (.of s) with
  | none =>
    have hl : r.left s = s := by simp [LexRule.left, hr]
    simpa [better, hr] using keep (by simp [hl])
  | some t =>
    have hl : r.left s = t.chars := by simp [LexRule.left, hr]
    have hsize := t.size_eq
    by_cases hlt : t.size < (best.elim (.of s) Prod.snd).size
    · have hbest : better (.of s) best r = some (r, t) := by simp [better, hr, hlt]
      rw [hbest]
      match best, h with
      | none, h =>
        have hts : t.size < s.length := by simpa using hlt
        refine ⟨seen, [], rfl, hl, hts, fun b hb => ?_, by simp⟩
        rw [h b hb, LexRule.reach, hl]
        omega
      | some (q, u), ⟨before, after, hd, hq, hu, hb, ha⟩ =>
        have htu : t.size < u.size := by simpa using hlt
        have husize := u.size_eq
        have hqr : q.reach s < r.reach s := by
          rw [LexRule.reach, LexRule.reach, hl, hq]
          omega
        refine ⟨seen, [], rfl, hl, by omega, fun b hm => ?_, by simp⟩
        rw [hd] at hm
        rcases List.mem_append.1 hm with hm | hm
        · exact Nat.lt_trans (hb b hm) hqr
        · rcases List.mem_cons.1 hm with rfl | hm
          · exact hqr
          · exact Nat.lt_of_le_of_lt (ha b hm) hqr
    · have hbest : better (.of s) best r = best := by simp [better, hr, hlt]
      rw [hbest]
      exact keep (by rw [hl]; omega)

theorem decides_foldl {seen : List (LexRule κ)} {s : List Char}
    {best : Option (LexRule κ × Rest)} (h : Decides seen s best) (rules : List (LexRule κ)) :
    Decides (seen ++ rules) s (rules.foldl (better (.of s)) best) := by
  induction rules generalizing seen best with
  | nil => simpa using h
  | cons r rules ih => simpa using ih (decides_better h r)

/-- The search finds the deciding rule. -/
theorem decides_longest (g : Grammar κ) (s : List Char) :
    Decides g.rules s (g.longest (.of s)) := by
  have h : Decides ([] : List (LexRule κ)) s none := by simp [Decides]
  exact decides_foldl h g.rules

theorem size_lt_of_longest {g : Grammar κ} {s : List Char} {t : Rest} {r : LexRule κ}
    (h : g.longest (.of s) = some (r, t)) : t.size < s.length := by
  have hd := g.decides_longest s
  rw [h] at hd
  obtain ⟨_, _, _, _, ht, _⟩ := hd
  exact ht

/-- The deciding rule leaves the end of the text. -/
theorem eq_append_of_longest {g : Grammar κ} {s : List Char} {t : Rest} {r : LexRule κ}
    (h : g.longest (.of s) = some (r, t)) : s = s.take (s.length - t.size) ++ t.chars := by
  have hd := g.decides_longest s
  rw [h] at hd
  obtain ⟨_, _, _, hl, _⟩ := hd
  obtain ⟨m, hm⟩ := hl ▸ r.left_suffix s
  rw [t.size_eq, ← hm]
  simp

theorem cut_scan (g : Grammar κ) {ruler s : List Char} (h : s.length ≤ ruler.length) :
    g.Cut s (g.scan ruler (.of s)) := by
  induction ruler generalizing s with
  | nil =>
    obtain rfl : s = [] := by simpa using h
    exact .nil
  | cons d ruler ih =>
    cases s with
    | nil => exact .nil
    | cons c rest =>
      have hr : rest.length ≤ ruler.length := by simpa using h
      have hd := g.decides_longest (c :: rest)
      rw [scan, Rest.next?_of_cons]
      cases hl : g.longest (.of (c :: rest)) with
      | none => exact .alone (hl ▸ hd) (ih hr)
      | some b =>
        obtain ⟨r, t⟩ := b
        have ht := size_lt_of_longest hl
        have he := eq_append_of_longest hl
        have hsize := t.size_eq
        have hrec := ih (s := t.chars) (by simp only [List.length_cons] at ht; omega)
        rw [Rest.of_chars] at hrec
        rw [hl, ← t.of_chars, he] at hd
        have hc := Cut.ruled hd hrec
        rw [← he] at hc
        exact hc

/-- Scanning finds a cut. -/
theorem cut_spans (g : Grammar κ) (s : List Char) : g.Cut s (g.spans s) :=
  g.cut_scan (Nat.le_refl _)

/-- The spans of a cut make up the text. -/
theorem Cut.flatMap_text {g : Grammar κ} {s : List Char} {spans : List (Span κ)}
    (h : g.Cut s spans) : spans.flatMap Span.text = s := by
  induction h with
  | nil => rfl
  | alone _ _ ih => simp [ih]
  | ruled _ _ ih => simp [ih]

end Grammar

end ConceptInventory
