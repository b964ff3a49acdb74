import ConceptInventory.Analysis
import ConceptInventory.Proofs.Extraction
import ConceptInventory.Session.Closed

/-!
# The outcome of a session

A running session counts, asks and reads item by item; its closed form looks at
the fragments in front of the end once. The two agree for every queue that has
an end. The induction follows the phases: a known language stays known and an
unresolved one stays unresolved, while a counting session moves the threshold
towards the rest of its fragments by what it has heard.
-/
namespace ConceptInventory

def Item.ofFragment (f : String × Int) : Item := .fragment f.1 f.2

/-- A final item or an abort: nothing behind it is received. -/
def Item.endsSession : Item → Bool
  | .fragment _ _ => false
  | .finish _ => true
  | .abort _ => true

/-- A queue that holds an end is fragments, the first end, and the rest. -/
theorem exists_split_at_end {items : List Item} (h : ∃ i ∈ items, i.endsSession = true) :
    ∃ (fs : List (String × Int)) (e : Item) (rest : List Item),
      items = fs.map Item.ofFragment ++ e :: rest ∧ e.endsSession = true := by
  induction items with
  | nil => simp at h
  | cons i items ih =>
    cases i with
    | fragment text offset =>
      have htail : ∃ i ∈ items, i.endsSession = true := by simpa [Item.endsSession] using h
      obtain ⟨fs, e, rest, hitems, he⟩ := ih htail
      exact ⟨(text, offset) :: fs, e, rest, by simp [hitems, Item.ofFragment], he⟩
    | finish offset => exact ⟨[], .finish offset, items, rfl, rfl⟩
    | abort reason => exact ⟨[], .abort reason, items, rfl, rfl⟩

/-- In front of an end, the leading fragments are all there are. -/
theorem leadingFragments_split (fs : List (String × Int)) {e : Item} (he : e.endsSession = true)
    (rest : List Item) : leadingFragments (fs.map Item.ofFragment ++ e :: rest) = fs := by
  induction fs with
  | nil => cases e <;> simp_all [leadingFragments, Item.endsSession]
  | cons f fs ih => simp [leadingFragments, Item.ofFragment, ih]

theorem behindEnd_split (fs : List (String × Int)) {e : Item} (he : e.endsSession = true)
    (rest : List Item) : behindEnd (fs.map Item.ofFragment ++ e :: rest) = rest := by
  induction fs with
  | nil => cases e <;> simp_all [behindEnd, Item.endsSession]
  | cons f fs ih => simp [behindEnd, Item.ofFragment, ih]

theorem verdictOf_split (fs : List (String × Int)) (e : Item) (rest : List Item) :
    verdictOf (fs.map Item.ofFragment ++ e :: rest) = verdictOf (e :: rest) := by
  induction fs with
  | nil => rfl
  | cons f fs ih => simpa [verdictOf, Item.ofFragment] using ih

theorem totalLength_cons (f : String × Int) (fs : List (String × Int)) :
    totalLength (f :: fs) = f.1.length + totalLength fs := rfl

/-- The first fragment crosses, or the rest crosses what it leaves of the threshold. -/
theorem crossing?_cons (threshold : Int) (f : String × Int) (fs : List (String × Int)) :
    crossing? threshold (f :: fs)
      = if threshold ≤ f.1.length then some 0
        else (crossing? (threshold - f.1.length) fs).map (· + 1) := by
  have hfirst : totalLength [f] = f.1.length := by simp [totalLength]
  have hstep : (fun k => decide (threshold ≤ (totalLength ((f :: fs).take (k + 1)) : Int)))
      ∘ Nat.succ
      = fun k => decide (threshold - f.1.length ≤ (totalLength (fs.take (k + 1)) : Int)) := by
    funext k
    apply decide_eq_decide.mpr
    rw [List.take_succ_cons, totalLength_cons]
    omega
  rw [crossing?, List.length_cons, List.range_succ_eq_map, List.find?_cons, List.find?_map, hstep]
  by_cases h : threshold ≤ f.1.length
  · simp [hfirst, h]
  · simp [hfirst, h, crossing?]

example : crossing? 4 [("ab", 1), ("for", 3), ("x", 4)] = some 1 := by decide

namespace Session

/-- A session whose model was shown a fragment and that read it and the rest in
the language of the reply. -/
def answered (s : Session) (f : String × Int) (rest : List (String × Int)) : Session :=
  { s with
    asked := s.asked ++ [f.1]
    phase :=
      match (s.model f.1).language with
      | some l => .known ((Extractor.start s.source l).readAll (f :: rest))
      | none => .unresolved }

theorem hear_below {s : Session} {heard : Nat} (h : s.phase = .counting heard) {f : String × Int}
    (hlt : ¬s.threshold - heard ≤ f.1.length) :
    s.hear f.1 f.2 = { s with phase := .counting (heard + f.1.length) } := by
  have hbelow : ((heard + f.1.length : Nat) : Int) < s.threshold := by omega
  simp only [hear, h, hbelow, if_true]

theorem hear_crossing {s : Session} {heard : Nat} (h : s.phase = .counting heard)
    {f : String × Int} (hle : s.threshold - heard ≤ f.1.length) :
    s.hear f.1 f.2 = s.answered f [] := by
  have hreached : ¬((heard + f.1.length : Nat) : Int) < s.threshold := by omega
  simp only [hear, h, hreached, if_false]
  rfl

/-- Once the reply is in, the rest is read or dropped as a whole. -/
theorem hearAll_answered (s : Session) (f : String × Int) (fs : List (String × Int)) :
    (s.answered f []).hearAll fs = s.answered f fs := by
  cases hl : (s.model f.1).language with
  | some l =>
    have hknown : (s.answered f []).phase = .known ((Extractor.start s.source l).readAll [f]) := by
      simp only [answered, hl]
    rw [hearAll_of_known hknown]
    simp only [answered, hl]
    rfl
  | none =>
    have hunresolved : (s.answered f []).phase = .unresolved := by simp only [answered, hl]
    rw [hearAll_of_unresolved hunresolved]
    simp only [answered, hl]

/-- What is left of the threshold behind one more fragment. -/
theorem sub_heard (threshold : Int) (heard n : Nat) :
    threshold - heard - n = threshold - (heard + n : Nat) := by omega

theorem hearAll_of_no_crossing {s : Session} {heard : Nat} (h : s.phase = .counting heard)
    {fs : List (String × Int)} (hc : crossing? (s.threshold - heard) fs = none) :
    s.hearAll fs = { s with phase := .counting (heard + totalLength fs) } := by
  induction fs generalizing s heard with
  | nil =>
    cases s
    cases h
    rfl
  | cons f fs ih =>
    rw [crossing?_cons] at hc
    by_cases hle : s.threshold - heard ≤ f.1.length
    · simp [hle] at hc
    · have hrest : crossing? (s.threshold - (heard + f.1.length : Nat)) fs = none := by
        simpa [hle, sub_heard] using hc
      rw [hearAll_cons, hear_below h hle, totalLength_cons, ← Nat.add_assoc]
      exact ih rfl hrest

theorem hearAll_of_crossing {s : Session} {heard k : Nat} (h : s.phase = .counting heard)
    {fs : List (String × Int)} (hc : crossing? (s.threshold - heard) fs = some k) :
    ∃ f rest, fs.drop k = f :: rest ∧ s.hearAll fs = s.answered f rest := by
  induction fs generalizing s heard k with
  | nil => simp [crossing?] at hc
  | cons f fs ih =>
    rw [crossing?_cons] at hc
    by_cases hle : s.threshold - heard ≤ f.1.length
    · have hk : k = 0 := by simpa [hle, eq_comm] using hc
      subst hk
      refine ⟨f, fs, rfl, ?_⟩
      rw [hearAll_cons, hear_crossing h hle, hearAll_answered]
    · simp only [hle, if_false, sub_heard, Option.map_eq_some_iff] at hc
      obtain ⟨j, hj, rfl⟩ := hc
      obtain ⟨g, rest, hdrop, hall⟩ := ih (s := { s with phase := .counting (heard + f.1.length) })
        rfl hj
      refine ⟨g, rest, by simpa using hdrop, ?_⟩
      rw [hearAll_cons, hear_below h hle, hall]
      rfl

theorem outcome_of_known {s : Session} {source : String} {l : Language}
    {fs : List (String × Int)} (h : s.phase = .known ((Extractor.start source l).readAll fs)) :
    s.outcome = outcomeOf source (some l) fs := by
  simp only [outcome, h, outcomeOf, Extractor.readAll_language]
  rfl

theorem outcome_answered (s : Session) (f : String × Int) (rest : List (String × Int)) :
    (s.answered f rest).outcome = outcomeOf s.source (s.model f.1).language (f :: rest) := by
  cases hl : (s.model f.1).language with
  | some l =>
    have hknown : (s.answered f rest).phase
        = .known ((Extractor.start s.source l).readAll (f :: rest)) := by simp only [answered, hl]
    exact outcome_of_known hknown
  | none => simp only [outcome, answered, hl, outcomeOf]

/-- What a fresh session finds in fragments, and what it asks about them. -/
theorem hearAll_start (video : Video) (model : Model) (threshold : Int)
    (fs : List (String × Int)) :
    (((start video model threshold).hearAll fs).outcome,
      ((start video model threshold).hearAll fs).asked) = closed video model threshold fs := by
  cases hl : languageOfHint video.hint with
  | some l =>
    have hknown : (start video model threshold).phase = .known (.start video.url l) := by
      simp only [start, hl]
    have hall := hearAll_of_known hknown fs
    rw [outcome_of_known (congrArg phase hall), hall]
    simp only [closed, hl, start]
  | none =>
    have hcounting : (start video model threshold).phase = .counting 0 := by
      simp only [start, hl]
    have hleft : crossing? ((start video model threshold).threshold - (0 : Nat)) fs
        = crossing? threshold fs := by simp [start]
    cases hc : crossing? threshold fs with
    | none =>
      rw [hearAll_of_no_crossing hcounting (hleft.trans hc)]
      simp only [closed, hl, hc, Option.map_none, outcome, outcomeOf, start]
    | some k =>
      obtain ⟨f, rest, hdrop, hall⟩ := hearAll_of_crossing hcounting (hleft.trans hc)
      rw [hall, outcome_answered]
      simp only [closed, hl, hc, Option.map_some, hdrop, answered, start, List.nil_append]

/-- A queue with an end is heard up to it and no further. -/
theorem run_split (s : Session) (fs : List (String × Int)) {e : Item}
    (he : e.endsSession = true) (rest : List Item) :
    s.run (fs.map Item.ofFragment ++ e :: rest) = ⟨s.hearAll fs, verdictOf (e :: rest), rest⟩ := by
  rw [run_eq, leadingFragments_split fs he, behindEnd_split fs he, verdictOf_split]

/-- A session that receives a queue with an end stops at the first one. It has
received the fragments in front of it and nothing behind it. An abort gives its
reason; what was found and asked is the closed form of those fragments. -/
theorem run_closed_form (video : Video) (model : Model) (threshold : Int) (items : List Item)
    (h : ∃ i ∈ items, i.endsSession = true) :
    ∃ (fs : List (String × Int)) (e : Item) (rest : List Item),
      items = fs.map Item.ofFragment ++ e :: rest ∧
      ((start video model threshold).run items).left = rest ∧
      ((start video model threshold).run items).session.asked
        = (closed video model threshold fs).2 ∧
      match e with
      | .fragment _ _ => False
      | .abort reason =>
        ((start video model threshold).run items).verdict = .aborted reason
      | .finish _ =>
        ((start video model threshold).run items).verdict = .finished ∧
        ((start video model threshold).run items).session.outcome
          = (closed video model threshold fs).1 := by
  obtain ⟨fs, e, rest, rfl, he⟩ := exists_split_at_end h
  have hfound := hearAll_start video model threshold fs
  have hrun := run_split (start video model threshold) fs he rest
  refine ⟨fs, e, rest, rfl, by rw [hrun], by rw [hrun, ← hfound], ?_⟩
  cases e with
  | fragment text offset => simp [Item.endsSession] at he
  | abort reason => rw [hrun]; rfl
  | finish offset => exact ⟨by rw [hrun]; rfl, by rw [hrun, ← hfound]⟩

/-- The second fragment crosses: the model is shown it alone, and only it is read.
The abort behind the final item is left. -/
theorem run_closed_form_at_crossing :
    (∃ i ∈ [Item.fragment "ab" 1, .fragment "for" 3, .finish 5, .abort "late"],
      i.endsSession = true) ∧
    ((start ⟨"u", some "intro"⟩ (fun _ => .label "python\n") 4).run
      [.fragment "ab" 1, .fragment "for" 3, .finish 5, .abort "late"]).left = [.abort "late"] ∧
    ((start ⟨"u", some "intro"⟩ (fun _ => .label "python\n") 4).run
      [.fragment "ab" 1, .fragment "for" 3, .finish 5, .abort "late"]).verdict = .finished ∧
    (((start ⟨"u", some "intro"⟩ (fun _ => .label "python\n") 4).run
      [.fragment "ab" 1, .fragment "for" 3, .finish 5, .abort "late"]).session.outcome,
    ((start ⟨"u", some "intro"⟩ (fun _ => .label "python\n") 4).run
      [.fragment "ab" 1, .fragment "for" 3, .finish 5, .abort "late"]).session.asked)
      = (outcomeOf "u" (some .python) [("for", 3)], ["for"]) := by
  have h : ∃ i ∈ [Item.fragment "ab" 1, .fragment "for" 3, .finish 5, .abort "late"],
      i.endsSession = true := ⟨.finish 5, by simp, rfl⟩
  have hclosed : closed ⟨"u", some "intro"⟩ (fun _ => .label "python\n") 4 [("ab", 1), ("for", 3)]
      = (outcomeOf "u" (some .python) [("for", 3)], ["for"]) := by
    have hhint : languageOfHint (Video.hint ⟨"u", some "intro"⟩) = none := by decide +kernel
    have hlabel : (Reply.label "python\n").language = some .python := by decide +kernel
    have hcrossing : crossing? 4 [("ab", 1), ("for", 3)] = some 1 := by decide
    simp only [closed, hhint, hcrossing, hlabel, Option.map_some, List.drop_succ_cons, List.drop_zero]
  obtain ⟨fs, e, rest, hitems, hleft, hasked, hend⟩ :=
    run_closed_form ⟨"u", some "intro"⟩ (fun _ => .label "python\n") 4 _ h
  have he : e.endsSession = true := by
    cases e with
    | fragment text offset => exact hend.elim
    | finish offset => rfl
    | abort reason => rfl
  obtain rfl : fs = [("ab", 1), ("for", 3)] := by
    rw [← leadingFragments_split fs he rest, ← hitems]
    rfl
  obtain ⟨rfl, rfl⟩ : e = .finish 5 ∧ rest = [.abort "late"] := by
    simpa [Item.ofFragment, eq_comm] using hitems
  rw [hclosed] at hasked hend
  exact ⟨h, hleft, hend.1, Prod.ext hend.2 hasked⟩

end Session

/-- An analysis concludes from the fragments in front of the first end. -/
theorem analyze_split (video : Video) (model : Model) (settings : Settings) {script : Script}
    {fs : List (String × Int)} {e : Item} {rest : List Item}
    (hqueue : script.queue = fs.map Item.ofFragment ++ e :: rest) (he : e.endsSession = true) :
    analyze video model settings script
      = conclude video script.ending (verdictOf (e :: rest))
        ((Session.start video model settings.threshold).hearAll fs) := by
  rw [analyze, hqueue, Session.run_split _ fs he]

end ConceptInventory
