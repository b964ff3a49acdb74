import ConceptInventory.Proofs.FragmentOrder
import ConceptInventory.Proofs.SessionOutcome
import Std.Data.String.ToInt

/-!
# Thresholds compared

A lower threshold is reached by the same fragment or an earlier one, so what is read under a
higher threshold is the end of what is read under a lower one. Fragments in front of others
can only add tokens and, where offsets never go back, only make the first fragment that
shows a token an earlier one. The model says the same to every fragment, so the language
does not depend on which one it is shown.
-/
namespace ConceptInventory

theorem stampAt_injective (source : String) : Function.Injective (stampAt source) := by
  intro a b h
  rw [stampAt, stampAt, String.append_right_inj] at h
  exact Int.repr_injective h

/-- A lower threshold is crossed where a higher one is, or before. -/
theorem exists_crossing?_le {low high : Int} (hle : low ≤ high) {fs : List (String × Int)}
    {k : Nat} (hk : crossing? high fs = some k) : ∃ j ≤ k, crossing? low fs = some j := by
  induction fs generalizing low high k with
  | nil => cases hk
  | cons f fs ih =>
    rw [crossing?_cons] at hk ⊢
    by_cases hlow : low ≤ f.1.length
    · exact ⟨0, Nat.zero_le k, if_pos hlow⟩
    · have hhigh : ¬high ≤ f.1.length := by omega
      rw [if_neg hhigh, Option.map_eq_some_iff] at hk
      obtain ⟨k, hk, rfl⟩ := hk
      obtain ⟨j, hj, hfound⟩ := ih (by omega : low - f.1.length ≤ high - f.1.length) hk
      exact ⟨j + 1, Nat.succ_le_succ hj, by rw [if_neg hlow, hfound]; rfl⟩

/-- Where offsets never go back, the first fragment of a kind has the smallest offset. -/
theorem le_of_find?_eq_some {fs : List (String × Int)} (horder : (fs.map Prod.snd).Pairwise (· ≤ ·))
    {p : String × Int → Bool} {f g : String × Int} (hf : fs.find? p = some f) (hg : g ∈ fs)
    (hp : p g = true) : f.2 ≤ g.2 := by
  obtain ⟨_, before, after, rfl, hbefore⟩ := List.find?_eq_some_iff_append.mp hf
  rcases List.mem_append.mp hg with hg | hg
  · have hno := hbefore g hg
    simp [hp] at hno
  · rcases List.mem_cons.mp hg with rfl | hg
    · exact Int.le_refl _
    · rw [List.map_append, List.map_cons] at horder
      have hlater := (List.pairwise_append.mp horder).2.1
      exact (List.pairwise_cons.mp hlater).1 g.2 (List.mem_map_of_mem hg)

/-- The same token with the same value and path, shown no later. -/
structure Concept.NoLater (source : String) (c d : Concept) : Prop where
  sighting : c.sighting = d.sighting
  stamps : (∃ a, c.stamp = stampAt source a) ∧ ∃ b, d.stamp = stampAt source b
  le : ∀ a b, c.stamp = stampAt source a → d.stamp = stampAt source b → a ≤ b

namespace Extractor

variable {source : String} {l : Language} {fs gs : List (String × Int)}

/-- A recorded concept has the offset of the first fragment that shows its token. -/
theorem exists_first {d : Concept} (hd : d ∈ ((start source l).readAll fs).inventory.concepts) :
    ∃ f, fs.find? (fun f => l.shows d.token f.1) = some f ∧ d.stamp = stampAt source f.2 := by
  rw [readAll_start_concepts] at hd
  have hstamp := stamp_eq_firstStamp? source l fs d hd
  obtain ⟨f, hf, hd⟩ := Option.map_eq_some_iff.mp hstamp
  exact ⟨f, hf, hd.symm⟩

/-- What the end of a stream shows, all of it shows, and no later. -/
theorem exists_noLater_of_suffix (hsuffix : gs <:+ fs)
    (horder : (fs.map Prod.snd).Pairwise (· ≤ ·)) {d : Concept}
    (hd : d ∈ ((start source l).readAll gs).inventory.concepts) :
    ∃ c ∈ ((start source l).readAll fs).inventory.concepts, c.NoLater source d := by
  have hshown : ∃ f ∈ fs, d.sighting ∈ l.sightings f.1 := by
    rw [readAll_start_concepts] at hd
    obtain ⟨f, hf, hs⟩ := (mem_recorded_iff source l gs d.sighting).mp (List.mem_map_of_mem hd)
    exact ⟨f, hsuffix.subset hf, hs⟩
  obtain ⟨c, hc, hsighting⟩ : ∃ c ∈ ((start source l).readAll fs).inventory.concepts,
      c.sighting = d.sighting := by
    rw [readAll_start_concepts]
    exact List.mem_map.mp ((mem_recorded_iff source l fs d.sighting).mpr hshown)
  have htoken : c.token = d.token := congrArg Sighting.token hsighting
  obtain ⟨f, hf, hcstamp⟩ := exists_first hc
  obtain ⟨g, hg, hdstamp⟩ := exists_first hd
  have hle : f.2 ≤ g.2 := by
    have hshows := List.find?_some hg
    rw [← htoken] at hshows
    exact le_of_find?_eq_some horder hf (hsuffix.subset (List.mem_of_find?_eq_some hg)) hshows
  refine ⟨c, hc, hsighting, ⟨⟨f.2, hcstamp⟩, g.2, hdstamp⟩, ?_⟩
  intro a b ha hb
  rwa [stampAt_injective source (ha.symm.trans hcstamp),
    stampAt_injective source (hb.symm.trans hdstamp)]

end Extractor

namespace Session

theorem outcomeOf_language (source : String) (language : Option Language)
    (fs : List (String × Int)) : (outcomeOf source language fs).language = language := by
  cases language <;> rfl

variable {video : Video} {reply : Reply} {threshold : Int} {fs : List (String × Int)}

/-- Where the hint names no language and the model always says the same, what is read are
the fragments from the crossing on, in the language it says. -/
theorem closed_of_crossing (hhint : languageOfHint video.hint = none) {k : Nat}
    (hk : crossing? threshold fs = some k) :
    (closed video (fun _ => reply) threshold fs).1
      = outcomeOf video.url reply.language (fs.drop k) := by
  have hlt : k < fs.length := List.mem_range.mp (List.mem_of_find?_eq_some hk)
  rw [closed, hhint]
  simp only [hk, Option.map_some, List.drop_eq_getElem_cons hlt]

theorem closed_of_no_crossing (hhint : languageOfHint video.hint = none)
    (hk : crossing? threshold fs = none) :
    (closed video (fun _ => reply) threshold fs).1 = outcomeOf video.url none [] := by
  rw [closed, hhint]
  simp only [hk, Option.map_none]

/-- A stream of fragments up to its final item is run to its closed form. -/
theorem run_finished (video : Video) (model : Model) (threshold : Int) (fs : List (String × Int))
    (last : Int) :
    let run := (start video model threshold).run (fs.map Item.ofFragment ++ [.finish last])
    run.verdict = .finished ∧ run.session.outcome = (closed video model threshold fs).1 := by
  intro run
  have hfound := hearAll_start video model threshold fs
  have hrun : run = _ := run_split (start video model threshold) fs (e := .finish last) rfl []
  rw [hrun]
  exact ⟨rfl, congrArg Prod.fst hfound⟩

/-- Under a lower threshold no language and no token is lost. Of a stream whose offsets never
go back, with a hint that names no language and a model that always says the same, a session
that finds a language finds it as well with a lower threshold, and each concept it records
is then recorded with the same value and path at the same offset or an earlier one. -/
theorem run_lower_threshold {video : Video} (hhint : languageOfHint video.hint = none)
    (reply : Reply) {fs : List (String × Int)} (horder : (fs.map Prod.snd).Pairwise (· ≤ ·))
    (last : Int) {low high : Int} (hle : low ≤ high) :
    let run (threshold : Int) := (start video (fun _ => reply) threshold).run
      (fs.map Item.ofFragment ++ [.finish last])
    (run low).verdict = .finished ∧ (run high).verdict = .finished
      ∧ ∀ l, (run high).session.outcome.language = some l →
        (run low).session.outcome.language = some l
        ∧ ∀ d ∈ (run high).session.outcome.inventory.concepts,
          ∃ c ∈ (run low).session.outcome.inventory.concepts, c.NoLater video.url d := by
  intro run
  obtain ⟨hlowEnd, hlow⟩ := run_finished video (fun _ => reply) low fs last
  obtain ⟨hhighEnd, hhigh⟩ := run_finished video (fun _ => reply) high fs last
  refine ⟨hlowEnd, hhighEnd, ?_⟩
  intro l hl
  rw [hhigh] at hl ⊢
  rw [hlow]
  cases hk : crossing? high fs with
  | none =>
    rw [closed_of_no_crossing hhint hk] at hl
    cases hl
  | some k =>
    obtain ⟨j, hjk, hj⟩ := exists_crossing?_le hle hk
    rw [closed_of_crossing hhint hk, outcomeOf_language] at hl
    rw [closed_of_crossing hhint hk, closed_of_crossing hhint hj, outcomeOf_language, hl]
    refine ⟨rfl, fun d hd => ?_⟩
    -- what is read under the higher threshold is the end of what is read under the lower one
    have hsuffix : fs.drop k <:+ fs.drop j := List.drop_suffix_drop_left fs hjk
    have horder' : ((fs.drop j).map Prod.snd).Pairwise (· ≤ ·) :=
      horder.sublist ((List.drop_sublist j fs).map Prod.snd)
    exact Extractor.exists_noLater_of_suffix hsuffix horder' hd

/-- Under the higher threshold the first fragment is dropped, and with it the earlier stamp. -/
theorem run_lower_threshold_of_three :
    let fs : List (String × Int) := [("if", 1), ("for (;;)", 4), ("if while", 9)]
    let run (threshold : Int) := (start ⟨"u", some "intro"⟩ (fun _ => .label "java") threshold).run
      (fs.map Item.ofFragment ++ [.finish 9])
    let d : Concept := ⟨"If", "if", "u&t=9", ⟨"Statement", ["Condition", "If"]⟩⟩
    languageOfHint (Video.hint ⟨"u", some "intro"⟩) = none
      ∧ (fs.map Prod.snd).Pairwise (· ≤ ·) ∧ (2 : Int) ≤ 6
      ∧ (run 6).session.outcome.language = some .java
      ∧ (run 2).session.outcome.language = some .java
      ∧ d ∈ (run 6).session.outcome.inventory.concepts
      ∧ ∃ c ∈ (run 2).session.outcome.inventory.concepts, c.NoLater "u" d := by
  intro fs run d
  have hhint : languageOfHint (Video.hint ⟨"u", some "intro"⟩) = none := by decide +kernel
  have horder : (fs.map Prod.snd).Pairwise (· ≤ ·) := by decide
  have hle : (2 : Int) ≤ 6 := by decide
  have hhigh : (run 6).session.outcome.language = some .java
      ∧ d ∈ (run 6).session.outcome.inventory.concepts := by decide +kernel
  obtain ⟨_, _, hfound⟩ := run_lower_threshold hhint (.label "java") horder 9 hle
  obtain ⟨hlow, hrecorded⟩ := hfound .java hhigh.1
  exact ⟨hhint, horder, hle, hhigh.1, hlow, hhigh.2, hrecorded d hhigh.2⟩

end Session

end ConceptInventory
