import ConceptInventory.Proofs.Extraction
import ConceptInventory.Proofs.Filing
import Mathlib.Data.List.Perm.Basic

/-!
# The order of fragments

An inventory keeps the first concept with each token. As a token has one value and
one path whatever its neighbours, leaving out a later concept only leaves out its
stamp. So what is recorded, stamps apart, is what some fragment shows, in
whatever order the fragments come, and a stamp is that of the first fragment that
shows the token.
-/
namespace ConceptInventory

/-- A concept without the time it was shown at. -/
def Concept.sighting (c : Concept) : Sighting := ⟨c.token, c.value, c.path⟩

/-- Classifying the text yields the token. -/
def Language.shows (l : Language) (token text : String) : Bool :=
  ((l.sightings text).map Sighting.token).contains token

/-- A text shows a literal if one of its tokens is classified as a token with that literal. -/
theorem Dialect.shows_iff {κ : Type} [TokenKind κ] {d : Dialect κ} {token text : String} :
    ((d.sightings text).map Sighting.token).contains token = true
      ↔ ∃ i t, (d.grammar.tokenize text)[i]? = some t
        ∧ ∃ c, d.classify (.onList (d.grammar.tokenize text) i) = some c
          ∧ c.token.literal = token := by
  rw [List.contains_iff_mem, List.mem_map]
  constructor
  · rintro ⟨s, hs, rfl⟩
    obtain ⟨found, hfound, hc⟩ := List.mem_filterMap.mp hs
    obtain ⟨c, rfl, rfl⟩ := Option.map_eq_some_iff.mp hc
    obtain ⟨i, hi⟩ := List.mem_iff_getElem?.mp hfound
    rw [classifyAll_getElem?] at hi
    obtain ⟨t, ht, hclassify⟩ := Option.map_eq_some_iff.mp hi
    exact ⟨i, t, ht, c, hclassify, rfl⟩
  · rintro ⟨i, t, ht, c, hclassify, rfl⟩
    have hplace : (d.classifyAll (d.grammar.tokenize text))[i]? = some (some c) := by
      rw [classifyAll_getElem?, ht, Option.map_some, hclassify]
    exact ⟨sightingOf c, List.mem_filterMap.mpr ⟨_, List.mem_of_getElem? hplace, rfl⟩, rfl⟩

namespace Extractor

/-- Reading a fragment adds the tokens it shows and no others. -/
theorem has_read (e : Extractor) (fragment : String) (offset : Int) (token : String) :
    (e.read fragment offset).inventory.has token
      = (e.inventory.has token || e.language.shows token fragment) := by
  rw [read, Inventory.has_insertAll, shown, List.map_map]
  rfl

variable (source : String) (l : Language)

/-- All that fragments show in turn, repetitions included. -/
def shownAll (fs : List (String × Int)) : List Concept :=
  fs.flatMap fun f => (start source l).shown f.1 f.2

/-- The stamp of the first fragment that shows a token. -/
def firstStamp? (token : String) (fs : List (String × Int)) : Option String :=
  (fs.find? fun f => l.shows token f.1).map fun f => stampAt source f.2

theorem firstStamp?_cons (token : String) (f : String × Int) (fs : List (String × Int)) :
    firstStamp? source l token (f :: fs)
      = if l.shows token f.1 then some (stampAt source f.2) else firstStamp? source l token fs := by
  rw [firstStamp?, List.find?_cons]
  cases l.shows token f.1 <;> rfl

theorem sightings_shownAll (fs : List (String × Int)) :
    (shownAll source l fs).map Concept.sighting = fs.flatMap fun f => l.sightings f.1 := by
  have hshown (f : String × Int) :
      ((start source l).shown f.1 f.2).map Concept.sighting = l.sightings f.1 := by
    rw [shown, List.map_map]
    exact List.map_id _
  simp only [shownAll, List.map_flatMap, hshown]

theorem tokens_shown (f : String × Int) :
    ((start source l).shown f.1 f.2).map Concept.token
      = (l.sightings f.1).map Sighting.token := by
  rw [shown, List.map_map]
  rfl

/-- What is recorded is what some fragment shows. -/
theorem mem_recorded_iff (fs : List (String × Int)) (s : Sighting) :
    s ∈ (firstOccurrences (shownAll source l fs)).map Concept.sighting
      ↔ ∃ f ∈ fs, s ∈ l.sightings f.1 := by
  have hshown (s : Sighting) :
      s ∈ (shownAll source l fs).map Concept.sighting ↔ ∃ f ∈ fs, s ∈ l.sightings f.1 := by
    rw [sightings_shownAll, List.mem_flatMap]
  constructor
  · intro h
    obtain ⟨c, hc, rfl⟩ := List.mem_map.mp h
    exact (hshown _).mp (List.mem_map_of_mem (mem_of_mem_firstOccurrences hc))
  · rintro ⟨f, hf, hs⟩
    -- some concept with the token is kept, and there is only one sighting it can be of
    obtain ⟨d, hd, rfl⟩ := List.mem_map.mp ((hshown s).mpr ⟨f, hf, hs⟩)
    obtain ⟨c, hc, htoken⟩ := List.mem_map.mp
      (mem_tokens_firstOccurrences.mpr (List.mem_map_of_mem (f := Concept.token) hd))
    obtain ⟨g, _, hg⟩ :=
      (hshown c.sighting).mp (List.mem_map_of_mem (mem_of_mem_firstOccurrences hc))
    have hsame : c.sighting = d.sighting :=
      Language.sighting_unique (Language.classifies_of_mem_sightings hg)
        (Language.classifies_of_mem_sightings hs) htoken
    rw [← hsame]
    exact List.mem_map_of_mem hc

theorem stamp_eq_firstStamp? (fs : List (String × Int)) :
    ∀ c ∈ firstOccurrences (shownAll source l fs),
      firstStamp? source l c.token fs = some c.stamp := by
  induction fs with
  | nil => simp [shownAll, firstOccurrences]
  | cons f fs ih =>
    intro c hc
    have hcons : shownAll source l (f :: fs)
        = (start source l).shown f.1 f.2 ++ shownAll source l fs := rfl
    rw [hcons, firstOccurrences_append, tokens_shown] at hc
    rw [firstStamp?_cons]
    rcases List.mem_append.mp hc with hc | hc
    · obtain ⟨s, hs, rfl⟩ := List.mem_map.mp (mem_of_mem_firstOccurrences hc)
      have hshows : l.shows s.token f.1 = true :=
        List.contains_iff_mem.mpr (List.mem_map_of_mem hs)
      exact if_pos hshows
    · obtain ⟨hc, hnew⟩ := List.mem_filter.mp hc
      have hshows : ¬l.shows c.token f.1 = true := by simpa [Language.shows] using hnew
      rw [if_neg hshows]
      exact ih c hc

theorem nodup_sightings (i : Inventory) : (i.concepts.map Concept.sighting).Nodup := by
  apply List.Nodup.of_map Sighting.token
  rw [List.map_map]
  exact i.distinct

/-- Fragments read in another order leave the same tokens with the same values and
paths, and each token has the stamp of the first fragment that shows it. Nothing
is lost to the order, since in one language a literal has one value and one path. -/
theorem readAll_perm (source : String) (l : Language) :
    (∀ fs fs' : List (String × Int), fs.Perm fs' →
      let i := ((start source l).readAll fs).inventory
      let j := ((start source l).readAll fs').inventory
      (∀ s, s ∈ i.concepts.map Concept.sighting ↔ s ∈ j.concepts.map Concept.sighting)
        ∧ i.size = j.size
        ∧ (∀ c ∈ i.concepts, firstStamp? source l c.token fs = some c.stamp)
        ∧ ∀ c ∈ j.concepts, firstStamp? source l c.token fs' = some c.stamp)
      ∧ ∀ s s', l.Classifies s → l.Classifies s' → s.token = s'.token → s = s' := by
  refine ⟨?_, fun s s' => Language.sighting_unique⟩
  intro fs fs' hperm i j
  have hi : i.concepts = firstOccurrences (shownAll source l fs) :=
    readAll_start_concepts source l fs
  have hj : j.concepts = firstOccurrences (shownAll source l fs') :=
    readAll_start_concepts source l fs'
  have hmem (s : Sighting) :
      s ∈ i.concepts.map Concept.sighting ↔ s ∈ j.concepts.map Concept.sighting := by
    rw [hi, hj, mem_recorded_iff, mem_recorded_iff]
    simp only [hperm.mem_iff]
  have hrecorded : (i.concepts.map Concept.sighting).Perm (j.concepts.map Concept.sighting) :=
    (List.perm_ext_iff_of_nodup (nodup_sightings i) (nodup_sightings j)).mpr hmem
  refine ⟨hmem, ?_, ?_, ?_⟩
  · simpa [Inventory.size] using hrecorded.length_eq
  · rw [hi]
    exact stamp_eq_firstStamp? source l fs
  · rw [hj]
    exact stamp_eq_firstStamp? source l fs'

/-- Two fragments both show the first token, with other neighbours each time. -/
theorem readAll_perm_of_two :
    let fs : List (String × Int) := [("if (a * 2)", 7), ("int * p; if", 3)]
    let fs' : List (String × Int) := [("int * p; if", 3), ("if (a * 2)", 7)]
    let i := ((start "u" .cpp).readAll fs).inventory
    let j := ((start "u" .cpp).readAll fs').inventory
    let s : Sighting := ⟨"Pointer", "pointer", ⟨"Declaration", ["Declarator", "Pointer"]⟩⟩
    fs.Perm fs' ∧ i.size = j.size ∧ s ∈ i.concepts.map Concept.sighting
      ∧ s ∈ j.concepts.map Concept.sighting
      ∧ (∀ c ∈ i.concepts, c.token = "If" → c.stamp = "u&t=7")
      ∧ (∀ c ∈ j.concepts, c.token = "If" → c.stamp = "u&t=3")
      ∧ ∀ s', Language.Classifies .cpp s' → s'.token = "Pointer" → s' = s := by
  intro fs fs' i j s
  have hperm : fs.Perm fs' := .swap _ _ _
  obtain ⟨horder, hunique⟩ := readAll_perm "u" .cpp
  obtain ⟨hmem, hsize, hstamps, hstamps'⟩ := horder fs fs' hperm
  have htwice : (Language.sightings .cpp "if (a * 2)").map Sighting.token
      = ["If", "Multiplication"] := by decide +kernel
  have hpointer : s ∈ Language.sightings .cpp "int * p; if"
      ∧ Language.shows .cpp "If" "int * p; if" = true := by decide +kernel
  have hs : s ∈ i.concepts.map Concept.sighting := by
    change s ∈ ((start "u" .cpp).readAll fs).inventory.concepts.map Concept.sighting
    rw [readAll_start_concepts]
    exact (mem_recorded_iff "u" .cpp fs s).mpr ⟨_, List.mem_cons_of_mem _ List.mem_cons_self,
      hpointer.1⟩
  have hfirst : firstStamp? "u" .cpp "If" fs = some "u&t=7" := by
    rw [firstStamp?_cons, Language.shows, htwice]
    decide
  have hfirst' : firstStamp? "u" .cpp "If" fs' = some "u&t=3" := by
    rw [firstStamp?_cons, hpointer.2]
    decide
  refine ⟨hperm, hsize, hs, (hmem s).mp hs, ?_, ?_, ?_⟩
  · intro c hc htoken
    have hstamp := hstamps c hc
    rw [htoken, hfirst] at hstamp
    exact (Option.some.inj hstamp).symm
  · intro c hc htoken
    have hstamp := hstamps' c hc
    rw [htoken, hfirst'] at hstamp
    exact (Option.some.inj hstamp).symm
  · intro s' hs' htoken
    exact hunique s' s hs' (Language.classifies_of_mem_sightings hpointer.1) htoken

end Extractor

end ConceptInventory
