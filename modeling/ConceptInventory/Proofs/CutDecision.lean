import ConceptInventory.Lexis.Cut
import ConceptInventory.Proofs.PatternSeam

/-!
# Decisions and cuts

What decides at a place of a text is decided there once, so a text has one cut,
and whoever builds a cut has found the spans. A decision stays the same when
text is put behind that changes what no rule leaves; a rule that avoids the
first character of the text behind leaves the same of the text in front.
-/
namespace ConceptInventory

variable {κ : Type}

theorem decides_unique {rules : List (LexRule κ)} {s : List Char}
    {d d' : Option (LexRule κ × Rest)} (h : Decides rules s d) (h' : Decides rules s d') :
    d = d' := by
  have hnone {r : LexRule κ} {t : Rest} (hn : Decides rules s none)
      (hs : Decides rules s (some (r, t))) : False := by
    obtain ⟨before, after, hrules, hleft, hlt, _⟩ := hs
    have hreach := hn r (by simp [hrules])
    have hsize := t.size_eq
    rw [LexRule.reach, hleft] at hreach
    omega
  cases d with
  | none =>
    cases d' with
    | none => rfl
    | some q => exact (hnone h h').elim
  | some p =>
    cases d' with
    | none => exact (hnone h' h).elim
    | some q =>
      obtain ⟨r, t⟩ := p
      obtain ⟨r', t'⟩ := q
      obtain ⟨before, after, hrules, hleft, _, hbefore, hafter⟩ := h
      obtain ⟨before', after', hrules', hleft', _, hbefore', hafter'⟩ := h'
      -- the two rules stand at the same place: neither may stand in front of the other
      have hsame : r = r' := by
        rcases List.append_eq_append_iff.mp (hrules.symm.trans hrules') with
          ⟨m, hm, hcons⟩ | ⟨m, hm, hcons⟩
        · cases m with
          | nil => exact (List.cons.inj hcons).1
          | cons c m =>
            obtain ⟨rfl, hm'⟩ := List.cons.inj hcons
            have hlt := hbefore' r (by simp [hm])
            have hle := hafter r' (by simp [hm'])
            omega
        · cases m with
          | nil => exact (List.cons.inj hcons).1.symm
          | cons c m =>
            obtain ⟨rfl, hm'⟩ := List.cons.inj hcons
            have hlt := hbefore r' (by simp [hm])
            have hle := hafter' r (by simp [hm'])
            omega
      subst hsame
      have ht : t = t' := by
        rw [← t.of_chars, ← t'.of_chars, ← hleft, ← hleft']
      rw [ht]

/-- No rule reaches farther than the deciding one. -/
theorem Decides.reach_le {rules : List (LexRule κ)} {s : List Char} {q : LexRule κ} {t : Rest}
    (h : Decides rules s (some (q, t))) {r : LexRule κ} (hr : r ∈ rules) :
    r.reach s ≤ q.reach s := by
  obtain ⟨before, after, hrules, _, _, hbefore, hafter⟩ := h
  rw [hrules] at hr
  rcases List.mem_append.mp hr with hr | hr
  · exact Nat.le_of_lt (hbefore r hr)
  · rcases List.mem_cons.mp hr with rfl | hr
    · exact Nat.le_refl _
    · exact hafter r hr

theorem Decides.reach_eq {rules : List (LexRule κ)} {m rest : List Char} {q : LexRule κ}
    (h : Decides rules (m ++ rest) (some (q, .of rest))) :
    q.reach (m ++ rest) = m.length := by
  obtain ⟨_, _, _, hleft, _, _, _⟩ := h
  rw [LexRule.reach, hleft, Rest.chars_of, List.length_append, Nat.add_sub_cancel]

/-- A decision stands when text behind it changes what no rule leaves. -/
theorem decides_append {rules : List (LexRule κ)} {s w : List Char}
    (hw : ∀ r ∈ rules, r.left (s ++ w) = r.left s ++ w) {d : Option (LexRule κ × Rest)}
    (h : Decides rules s d) :
    Decides rules (s ++ w) (d.map fun e => (e.1, .of (e.2.chars ++ w))) := by
  have hreach : ∀ r ∈ rules, r.reach (s ++ w) = r.reach s := by
    intro r hr
    rw [LexRule.reach, hw r hr, List.length_append, List.length_append, LexRule.reach]
    omega
  cases d with
  | none =>
    intro r hr
    rw [hreach r hr]
    exact h r hr
  | some e =>
    obtain ⟨r, t⟩ := e
    obtain ⟨before, after, hrules, hleft, hlt, hbefore, hafter⟩ := h
    have hr : r ∈ rules := by simp [hrules]
    have hsize := t.size_eq
    refine ⟨before, after, hrules, ?_, ?_, ?_, ?_⟩
    · rw [hw r hr, hleft]
      rfl
    · simp only [Rest.size_of, List.length_append]
      omega
    · intro b hb
      rw [hreach r hr, hreach b (by simp [hrules, hb])]
      exact hbefore b hb
    · intro a ha
      rw [hreach r hr, hreach a (by simp [hrules, ha])]
      exact hafter a ha

/-- Where one rule reaches farther than all others, it decides. -/
theorem decides_of_farthest {before after : List (LexRule κ)} {r : LexRule κ} {s : List Char}
    (hlt : (r.left s).length < s.length)
    (hothers : ∀ q ∈ before ++ after, q.reach s < r.reach s) :
    Decides (before ++ r :: after) s (some (r, .of (r.left s))) := by
  refine ⟨before, after, rfl, rfl, hlt, ?_, ?_⟩
  · intro b hb
    exact hothers b (by simp [hb])
  · intro a ha
    exact Nat.le_of_lt (hothers a (by simp [ha]))

namespace Grammar

/-- A text has one cut. -/
theorem Cut.unique {g : Grammar κ} {s : List Char} {spans spans' : List (Span κ)}
    (h : g.Cut s spans) (h' : g.Cut s spans') : spans = spans' := by
  induction h generalizing spans' with
  | nil =>
    generalize hs : ([] : List Char) = s at h'
    cases h' with
    | nil => rfl
    | alone _ _ => cases hs
    | ruled hd _ =>
      obtain ⟨_, _, _, _, hlt, _⟩ := hd
      rw [← hs] at hlt
      simp at hlt
  | @alone c rest spans hd hr ih =>
    generalize hs : c :: rest = s at h'
    cases h' with
    | nil => cases hs
    | alone _ hr' =>
      obtain ⟨rfl, rfl⟩ := List.cons.inj hs
      rw [ih hr']
    | ruled hd' _ =>
      rw [hs] at hd
      cases decides_unique hd hd'
  | @ruled r text rest spans hd hr ih =>
    generalize hs : text ++ rest = s at h'
    cases h' with
    | nil =>
      obtain ⟨_, _, _, _, hlt, _⟩ := hd
      rw [hs] at hlt
      simp at hlt
    | alone hd' _ =>
      rw [hs] at hd
      cases decides_unique hd hd'
    | @ruled r' text' rest' spans' hd' hr' =>
      rw [hs] at hd
      have hsame := Option.some.inj (decides_unique hd hd')
      have hrule : r = r' := congrArg Prod.fst hsame
      have hrest : rest = rest' := congrArg (fun e => e.2.chars) hsame
      subst hrule hrest
      obtain rfl : text = text' := List.append_cancel_right hs
      rw [ih hr']

/-- The last spans of a cut are a cut of what they make up. -/
theorem Cut.of_append {g : Grammar κ} {s : List Char} {before after : List (Span κ)}
    (h : g.Cut s (before ++ after)) : g.Cut (after.flatMap Span.text) after := by
  induction before generalizing s with
  | nil =>
    have hs : after.flatMap Span.text = s := h.flatMap_text
    exact hs ▸ h
  | cons span before ih =>
    cases h with
    | alone _ hr => exact ih hr
    | ruled _ hr => exact ih hr

theorem spans_eq_of_cut {g : Grammar κ} {s : List Char} {spans : List (Span κ)}
    (h : g.Cut s spans) : g.spans s = spans := (g.cut_spans s).unique h

end Grammar

/-! ## Rules at a seam -/

namespace LexRule

theorem endsAt_append {w : List Char} (hw : atWordEnd w = true) (r : LexRule κ)
    (t : List Char) : r.endsAt (t ++ w) = r.endsAt t := by
  cases t with
  | nil =>
    rw [List.nil_append, endsAt, endsAt, hw]
    rfl
  | cons c t => rfl

theorem left_append_of_rest? {r : LexRule κ} {s w : List Char}
    (h : r.rest? (.of (s ++ w)) = (r.rest? (.of s)).map fun t => .of (t.chars ++ w)) :
    r.left (s ++ w) = r.left s ++ w := by
  rw [left, left, h]
  cases r.rest? (.of s) <;> rfl

/-- A rule that covers nothing across a seam leaves the same in front of it. -/
theorem left_append_of_staysIn {r : LexRule κ} {s w : List Char} (hs : r.pattern.steady = true)
    (h : r.pattern.StaysIn s w) (hw : atWordEnd w = true) : r.left (s ++ w) = r.left s ++ w := by
  have hends : (r.endsAt ∘ fun t => t ++ w) = r.endsAt := by
    funext t
    exact endsAt_append hw r t
  apply left_append_of_rest?
  rw [rest?_eq_find?, rest?_eq_find?, h.rests_append hs, List.find?_map, hends,
    Option.map_map, Option.map_map]
  rfl

/-- The rule takes nothing at or behind the character. -/
def stopsAt (x : Char) (r : LexRule κ) : Bool := r.pattern.avoids x && r.pattern.steady

/-- A rule that stops at a character leaves the same in front of it. -/
theorem left_append {r : LexRule κ} {x : Char} (h : r.stopsAt x = true)
    (hx : isWordCharacter x = false) (s b : List Char) :
    r.left (s ++ x :: b) = r.left s ++ x :: b := by
  obtain ⟨havoids, hsteady⟩ := Bool.and_eq_true_iff.mp h
  exact left_append_of_staysIn hsteady (Pattern.staysIn_of_avoids havoids s b)
    (by simp [atWordEnd, hx])

/-- A rule whose texts do not start with a character reaches nowhere at it. -/
theorem reach_eq_zero {r : LexRule κ} {x : Char} (h : r.pattern.starts x = false)
    (s : List Char) : r.reach (x :: s) = 0 := by
  have hleft : r.left (x :: s) = x :: s := by
    rw [left]
    cases hr : r.rest? (.of (x :: s)) with
    | none => rfl
    | some t =>
      obtain ⟨m, hm, hcovers⟩ := rest?_eq_append hr
      cases m with
      | nil => exact hm.symm
      | cons c m =>
        obtain ⟨rfl, _⟩ := List.cons.inj hm
        simp [hcovers.starts_of_cons rfl] at h
  rw [reach, hleft, Nat.sub_self]

/-! ## Rules that may end anywhere -/

/-- Such a rule takes the preferred match of its pattern. -/
theorem rest?_eq_head? {r : LexRule κ} (h : r.wholeWord = false) (s : List Char) :
    r.rest? (.of s) = (r.pattern.rests s).head?.map Rest.of := by
  have hends : r.endsAt = fun _ => true := by
    funext t
    rw [endsAt, h]
    rfl
  rw [rest?_eq_find?, hends]
  cases r.pattern.rests s <;> rfl

/-- A rule for runs leaves what follows the run. -/
theorem left_run {r : LexRule κ} {ok : Char → Bool} (hp : r.pattern = .plus (.one ok))
    (hw : r.wholeWord = false) (s : List Char) : r.left s = s.dropWhile ok := by
  rw [left, rest?_eq_head? hw, hp]
  cases s with
  | nil => rfl
  | cons c s =>
    by_cases h : ok c = true
    · have hrest : (Pattern.plus (.one ok)).rests (c :: s) = (Pattern.many (.one ok)).rests s := by
        simp [Pattern.plus, Pattern.rests, h]
      rw [hrest, Pattern.head?_rests_many_one, List.dropWhile_cons_of_pos h]
      rfl
    · have hrest : (Pattern.plus (.one ok)).rests (c :: s) = [] := by
        simp [Pattern.plus, Pattern.rests, h]
      rw [hrest, List.dropWhile_cons_of_neg h]
      rfl

end LexRule

/-- At a character that only a rule for runs takes, that rule decides. -/
theorem decides_run {before after : List (LexRule κ)} {r : LexRule κ} {ok : Char → Bool}
    (hp : r.pattern = .plus (.one ok)) (hw : r.wholeWord = false) {c : Char} (hc : ok c = true)
    (hothers : ∀ q ∈ before ++ after, q.pattern.starts c = false) (s : List Char) :
    Decides (before ++ r :: after) (c :: s) (some (r, .of (s.dropWhile ok))) := by
  have hleft : r.left (c :: s) = s.dropWhile ok := by
    rw [LexRule.left_run hp hw, List.dropWhile_cons_of_pos hc]
  have hle := (s.dropWhile_suffix ok).length_le
  rw [← hleft]
  apply decides_of_farthest
  · rw [hleft, List.length_cons]
    omega
  · intro q hq
    rw [LexRule.reach_eq_zero (hothers q hq), LexRule.reach, hleft, List.length_cons]
    omega

end ConceptInventory
