import ConceptInventory.Lexis.Marks
import ConceptInventory.Proofs.DroppedText

/-!
# Longest matches without loss

A text has exactly one list of marks, and its tokens are those its marks give.
What can be said of the marks follows from how a cut goes on: its first span is
the longest match at the front, decided by the earliest rule that matches as far.
The induction is on the spans, with the text in front of them kept general, since
marks are counted from the start of the whole text.
-/
namespace ConceptInventory

variable {κ : Type}

/-! ## Lists of places -/

theorem stretches_cons_cons (p q : Nat) (ps : List Nat) :
    stretches (p :: q :: ps) = (p, q) :: stretches (q :: ps) := rfl

theorem le_getLast_of_isChain {R : Nat → Nat → Prop} (hlt : ∀ p q, R p q → p < q) {p n : Nat}
    {ps : List Nat} (h : (p :: ps).IsChain R) (hlast : (p :: ps).getLast? = some n) : p ≤ n := by
  induction ps generalizing p with
  | nil => exact Nat.le_of_eq (Option.some.inj hlast)
  | cons q ps ih =>
    obtain ⟨hpq, hrest⟩ := List.isChain_cons_cons.mp h
    exact Nat.le_trans (Nat.le_of_lt (hlt p q hpq)) (ih hrest hlast)

/-- Where each place settles the next one and no place comes back, a list is settled by
its ends. -/
theorem eq_of_isChain {R : Nat → Nat → Prop} (hlt : ∀ p q, R p q → p < q)
    (hnext : ∀ p q q', R p q → R p q' → q = q') {p n : Nat} {ps qs : List Nat}
    (hps : (p :: ps).IsChain R) (hqs : (p :: qs).IsChain R)
    (hlast : (p :: ps).getLast? = some n) (hlast' : (p :: qs).getLast? = some n) : ps = qs := by
  induction ps generalizing p qs with
  | nil =>
    cases qs with
    | nil => rfl
    | cons q qs =>
      obtain ⟨hpq, hrest⟩ := List.isChain_cons_cons.mp hqs
      have hpn : p = n := Option.some.inj hlast
      have := hlt p q hpq
      have := le_getLast_of_isChain hlt hrest hlast'
      omega
  | cons q ps ih =>
    obtain ⟨hpq, hrest⟩ := List.isChain_cons_cons.mp hps
    cases qs with
    | nil =>
      have hpn : p = n := Option.some.inj hlast'
      have := hlt p q hpq
      have := le_getLast_of_isChain hlt hrest hlast
      omega
    | cons q' qs =>
      obtain ⟨hpq', hrest'⟩ := List.isChain_cons_cons.mp hqs
      obtain rfl := hnext p q q' hpq hpq'
      rw [ih hrest hrest' hlast hlast']

theorem le_of_mem_stretches {p : Nat} {ps : List Nat} (h : (p :: ps).IsChain (· < ·))
    {e : Nat × Nat} (he : e ∈ stretches (p :: ps)) : p ≤ e.1 := by
  induction ps generalizing p with
  | nil => cases he
  | cons q ps ih =>
    obtain ⟨hpq, hrest⟩ := List.isChain_cons_cons.mp h
    rcases List.mem_cons.mp he with rfl | he
    · exact Nat.le_refl _
    · exact Nat.le_trans (Nat.le_of_lt hpq) (ih hrest he)

/-- Every place before the last lies in one stretch. -/
theorem existsUnique_stretch {p n : Nat} {ps : List Nat} (h : (p :: ps).IsChain (· < ·))
    (hlast : (p :: ps).getLast? = some n) {x : Nat} (hp : p ≤ x) (hn : x < n) :
    ∃! e, e ∈ stretches (p :: ps) ∧ e.1 ≤ x ∧ x < e.2 := by
  induction ps generalizing p with
  | nil =>
    have hpn : p = n := Option.some.inj hlast
    omega
  | cons q ps ih =>
    obtain ⟨hpq, hrest⟩ := List.isChain_cons_cons.mp h
    rw [stretches_cons_cons]
    by_cases hx : x < q
    · refine ⟨(p, q), ⟨List.mem_cons_self, hp, hx⟩, ?_⟩
      rintro e ⟨he, hle, _⟩
      rcases List.mem_cons.mp he with rfl | he
      · rfl
      · have := le_of_mem_stretches hrest he
        omega
    · obtain ⟨e, ⟨he, hle, hlt⟩, honly⟩ := ih hrest hlast (by omega)
      refine ⟨e, ⟨List.mem_cons_of_mem _ he, hle, hlt⟩, ?_⟩
      rintro d ⟨hd, hdle, hdlt⟩
      rcases List.mem_cons.mp hd with rfl | hd
      · exact absurd hdlt hx
      · exact honly d ⟨hd, hdle, hdlt⟩

/-! ## Marks and cuts -/

namespace Grammar

variable {g : Grammar κ}

theorem Munches.pos {s : List Char} {n : Nat} (h : g.Munches s n) : 0 < n := by
  rcases h with ⟨hn, _⟩ | ⟨rfl, _⟩
  · exact hn
  · exact Nat.one_pos

theorem Munches.unique {s : List Char} {m n : Nat} (hm : g.Munches s m) (hn : g.Munches s n) :
    m = n := by
  rcases hm with ⟨hm, ⟨r, hr, hrm⟩, hmax⟩ | ⟨rfl, hm⟩
  · rcases hn with ⟨hn, ⟨q, hq, hqn⟩, hmax'⟩ | ⟨rfl, hn⟩
    · have := hmax q hq
      have := hmax' r hr
      omega
    · have := hn r hr
      omega
  · rcases hn with ⟨hn, ⟨q, hq, hqn⟩, _⟩ | ⟨rfl, _⟩
    · have := hm q hq
      omega
    · rfl

theorem munches_of_decides_none {s : List Char} (h : Decides g.rules s none) :
    g.Munches s 1 ∧ g.decider? s 1 = none := by
  refine ⟨.inr ⟨rfl, h⟩, ?_⟩
  rw [decider?, List.find?_eq_none]
  intro r hr
  rw [h r hr]
  decide

theorem munches_of_decides_some {r : LexRule κ} {m rest : List Char}
    (h : Decides g.rules (m ++ rest) (some (r, .of rest))) :
    g.Munches (m ++ rest) m.length ∧ g.decider? (m ++ rest) m.length = some r := by
  have hreach := h.reach_eq
  have hmax (q : LexRule κ) (hq : q ∈ g.rules) : q.reach (m ++ rest) ≤ m.length :=
    hreach ▸ h.reach_le hq
  obtain ⟨before, after, hrules, _, hlt, hbefore, _⟩ := h
  rw [hreach] at hbefore
  rw [Rest.size_of, List.length_append] at hlt
  refine ⟨.inl ⟨by omega, ⟨r, by simp [hrules], hreach⟩, hmax⟩, ?_⟩
  · rw [decider?, List.find?_eq_some_iff_append]
    refine ⟨by simp [hreach], before, after, hrules, ?_⟩
    intro q hq
    simpa using Nat.ne_of_lt (hbefore q hq)

/-- A span in front of a text is the longest match, and its rule the earliest that
matches as far. -/
structure Heads (g : Grammar κ) (span : Span κ) (rest : List Char) : Prop where
  munches : g.Munches (span.text ++ rest) span.text.length
  decider : g.decider? (span.text ++ rest) span.text.length = span.rule

theorem Cut.cons_inv {s : List Char} {span : Span κ} {spans : List (Span κ)}
    (h : g.Cut s (span :: spans)) :
    ∃ rest, s = span.text ++ rest ∧ g.Heads span rest ∧ g.Cut rest spans := by
  cases h with
  | @alone c rest _ hd hr =>
    obtain ⟨hmunches, hdecider⟩ := munches_of_decides_none hd
    exact ⟨rest, rfl, ⟨hmunches, hdecider⟩, hr⟩
  | @ruled r m rest _ hd hr =>
    obtain ⟨hmunches, hdecider⟩ := munches_of_decides_some hd
    exact ⟨rest, rfl, ⟨hmunches, hdecider⟩, hr⟩

/-- The marks of spans behind a place. -/
def marksFrom (p : Nat) : List (Span κ) → List Nat
  | [] => [p]
  | span :: spans => p :: marksFrom (p + span.text.length) spans

theorem marksFrom_eq_cons (p : Nat) (spans : List (Span κ)) :
    ∃ ps, marksFrom p spans = p :: ps := by
  cases spans with
  | nil => exact ⟨[], rfl⟩
  | cons span spans => exact ⟨_, rfl⟩

/-- What stands between two places, with the rule that decides it. -/
def spanBetween (g : Grammar κ) (s : List Char) (e : Nat × Nat) : Span κ :=
  ⟨between s e.1 e.2, g.decider? (s.drop e.1) (e.2 - e.1)⟩

theorem tokenOf?_spanBetween (g : Grammar κ) (s : List Char) (e : Nat × Nat) :
    g.tokenOf? (g.spanBetween s e) = g.markedToken? s e.1 e.2 := by
  rw [markedToken?, tokenOf?, spanBetween]
  cases g.decider? (s.drop e.1) (e.2 - e.1) with
  | none => rfl
  | some r =>
    obtain ⟨_, _, kind, keepsText⟩ := r
    cases kind <;> cases keepsText <;> rfl

/-- The marks of a cut, in a text with something in front of it. -/
theorem Cut.marksFrom {s : List Char} {spans : List (Span κ)} (h : g.Cut s spans)
    (front : List Char) :
    (Grammar.marksFrom front.length spans).getLast? = some (front ++ s).length
      ∧ ((Grammar.marksFrom front.length spans).IsChain fun p q =>
        p < q ∧ g.Munches ((front ++ s).drop p) (q - p))
      ∧ (stretches (Grammar.marksFrom front.length spans)).map (g.spanBetween (front ++ s))
        = spans := by
  induction spans generalizing s front with
  | nil =>
    cases h
    rw [List.append_nil]
    exact ⟨rfl, List.isChain_singleton _, rfl⟩
  | cons span spans ih =>
    obtain ⟨rest, rfl, hhead, hrest⟩ := h.cons_inv
    have hlength : (front ++ span.text).length = front.length + span.text.length :=
      List.length_append
    obtain ⟨hlast, hchain, hspans⟩ := ih hrest (front ++ span.text)
    rw [List.append_assoc, hlength] at hlast hchain hspans
    have hdrop : (front ++ (span.text ++ rest)).drop front.length = span.text ++ rest :=
      List.drop_left
    have hsize : front.length + span.text.length - front.length = span.text.length :=
      Nat.add_sub_cancel_left ..
    obtain ⟨ps, hps⟩ := marksFrom_eq_cons (front.length + span.text.length) spans
    rw [hps] at hlast hchain hspans
    rw [Grammar.marksFrom, hps]
    refine ⟨by rw [List.getLast?_cons_cons, hlast], ?_, ?_⟩
    · rw [List.isChain_cons_cons, hdrop, hsize]
      refine ⟨⟨?_, hhead.munches⟩, hchain⟩
      have := hhead.munches.pos
      omega
    · rw [stretches_cons_cons, List.map_cons, hspans, spanBetween, between, hdrop, hsize,
        hhead.decider, List.take_left]

/-- No span is empty, so there are no more spans than characters. -/
theorem Cut.length_le {s : List Char} {spans : List (Span κ)} (h : g.Cut s spans) :
    spans.length ≤ s.length := by
  induction spans generalizing s with
  | nil => exact Nat.zero_le _
  | cons span spans ih =>
    obtain ⟨rest, rfl, hhead, hrest⟩ := h.cons_inv
    have := ih hrest
    have := hhead.munches.pos
    rw [List.length_append, List.length_cons]
    omega

/-- The marks of a cut, counted from the start of its text. -/
theorem Cut.exists_marks {s : List Char} {spans : List (Span κ)} (h : g.Cut s spans) :
    ∃ ps, g.Marks s (0 :: ps) ∧ (stretches (0 :: ps)).map (g.spanBetween s) = spans := by
  obtain ⟨hlast, hchain, hspans⟩ := h.marksFrom []
  obtain ⟨ps, hps⟩ := marksFrom_eq_cons 0 spans
  rw [List.length_nil, hps, List.nil_append] at hlast hchain hspans
  exact ⟨ps, ⟨rfl, hlast, hchain⟩, hspans⟩

theorem Marks.unique {s : List Char} {ps qs : List Nat} (hp : g.Marks s ps) (hq : g.Marks s qs) :
    ps = qs := by
  cases ps with
  | nil => cases hp.first
  | cons p ps =>
    cases qs with
    | nil => cases hq.first
    | cons q qs =>
      obtain rfl : p = 0 := Option.some.inj hp.first
      obtain rfl : q = 0 := Option.some.inj hq.first
      have htails : ps = qs := by
        refine eq_of_isChain (fun _ _ h => h.1) ?_ hp.next hq.next hp.last hq.last
        rintro p q q' ⟨hpq, hmunches⟩ ⟨hpq', hmunches'⟩
        have := hmunches.unique hmunches'
        omega
      rw [htails]

theorem exists_munchedBy {discarded : List Char → Prop}
    (hdiscarded : ∀ r m rest, g.Matches r m rest → r.kind = none → discarded m)
    (text : String) : ∃ ps, g.MunchedBy discarded text ps := by
  have hcut := g.cut_spans text.toList
  obtain ⟨ps, hmarks, hspans⟩ := hcut.exists_marks
  have hstretches : (0 :: ps).IsChain (· < ·) := hmarks.next.imp fun _ _ h => h.1
  refine ⟨0 :: ps, ?_⟩
  exact {
    marks := hmarks
    only qs hqs := hqs.unique hmarks
    tokens := by
      rw [tokenize, ← hspans, List.filterMap_map]
      congr
      funext e
      exact g.tokenOf?_spanBetween text.toList e
    whole := by
      have htext := hcut.flatMap_text
      rw [← hspans, List.flatMap_map] at htext
      exact htext
    placed x hx := existsUnique_stretch hstretches hmarks.last (Nat.zero_le x) hx
    dropped := by
      intro e he hnone
      rw [← tokenOf?_spanBetween] at hnone
      have hspan : g.spanBetween text.toList e ∈ g.spans text.toList := by
        rw [← hspans]
        exact List.mem_map_of_mem he
      obtain ⟨r, rest, hmatches, hkind⟩ := hcut.dropped_of_mem hspan hnone
      exact hdiscarded r _ rest hmatches hkind
    few := Nat.le_trans (List.length_filterMap_le _ _) hcut.length_le }

end Grammar

/-- Scanning loses nothing: in either grammar every text has one list of marks, and its
tokens are what stands between them, blanks and comments left out. -/
theorem grammars_munch :
    (∀ text, ∃ ps, CFamily.grammar.MunchedBy CFamily.IsDiscarded text ps)
      ∧ ∀ text, ∃ ps, Python.grammar.MunchedBy Python.IsDiscarded text ps :=
  ⟨Grammar.exists_munchedBy fun _ _ _ => CFamily.isDiscarded_of_matches,
    Grammar.exists_munchedBy fun _ _ _ => Python.isDiscarded_of_matches⟩

-- A comment that is not closed is no comment.
example : CFamily.grammar.Marks "a+++/*b".toList [0, 1, 3, 4, 5, 6, 7] := by decide +kernel

end ConceptInventory
