import ConceptInventory.Proofs.LiteralIdentity
import ConceptInventory.Proofs.Resolution

/-!
# Where tokens are filed

A recorded token is filed under categories that its kind settles, whether the kind
was scanned or an ambiguity was resolved to it: the neighbours decide what a token
is recorded as and never where that is filed. So a literal settles the whole
classification.
-/
namespace ConceptInventory

namespace Dialect

variable {κ : Type} [TokenKind κ]

/-- Recorded tokens are filed under the categories of their kind. -/
def FilesUnder (d : Dialect κ) (home : κ → Option (List String)) : Prop :=
  ∀ w c, d.classify w = some c → ∃ outer, home c.token.kind = some outer ∧ c = .file c.token outer

/-- Some token among some neighbours is classified as the sighting. -/
def Classifies (d : Dialect κ) (s : Sighting) : Prop :=
  ∃ w c, d.classify w = some c ∧ sightingOf c = s

/-- What is classified in a text is classified at one of its tokens. -/
theorem exists_window_of_mem_sightings {d : Dialect κ} {text : String} {s : Sighting}
    (h : s ∈ d.sightings text) :
    ∃ w ∈ Window.each (d.grammar.tokenize text), ∃ c, d.classify w = some c ∧ sightingOf c = s := by
  obtain ⟨found, hfound, hs⟩ := List.mem_filterMap.mp h
  obtain ⟨w, hw, rfl⟩ := List.mem_map.mp hfound
  obtain ⟨c, hc, hsighting⟩ := Option.map_eq_some_iff.mp hs
  exact ⟨w, hw, c, hc, hsighting⟩

theorem classifies_of_mem_sightings {d : Dialect κ} {text : String} {s : Sighting}
    (h : s ∈ d.sightings text) : d.Classifies s := by
  obtain ⟨w, _, c, hc, hs⟩ := exists_window_of_mem_sightings h
  exact ⟨w, c, hc, hs⟩

/-- Two sightings with the same literal are the same. -/
theorem FilesUnder.sighting_unique {d : Dialect κ} {home : κ → Option (List String)}
    (h : d.FilesUnder home) (hnames : TokenKind.NamesDistinct κ) {s s' : Sighting}
    (hs : d.Classifies s) (hs' : d.Classifies s') (htoken : s.token = s'.token) : s = s' := by
  obtain ⟨w, c, hc, rfl⟩ := hs
  obtain ⟨w', c', hc', rfl⟩ := hs'
  have hsame : c.token = c'.token := Token.literal_injective hnames htoken
  obtain ⟨outer, hhome, hfile⟩ := h w c hc
  obtain ⟨outer', hhome', hfile'⟩ := h w' c' hc'
  have houter : outer = outer' := by
    rw [hsame, hhome'] at hhome
    exact (Option.some.inj hhome).symm
  rw [hfile, hfile', hsame, houter]

end Dialect

namespace CFamily

/-- The categories a kind is recorded under, if its tokens are ever recorded. -/
def home (k : Kind) : Option (List String) :=
  match treatment k with
  | .filed outer => some outer
  | .byContext .angle => some Category.comparison
  | _ => none

theorem home_of_filed {k : Kind} {outer : List String} (h : treatment k = .filed outer) :
    home k = some outer := by
  rw [home, h]

theorem home_of_angle {k : Kind} (h : treatment k = .byContext .angle) :
    home k = some Category.comparison := by
  rw [home, h]

/-- What is classified is the token of the window as it stands, filed or an angle, or a
kind without a text that the token is resolved to. -/
theorem classify_eq_some {w : Window Kind} {c : Classification Kind} (h : classify w = some c) :
    ∃ t, w.current = some t ∧
      ((∃ outer, treatment t.kind = .filed outer ∧ c = .file t outer)
        ∨ (treatment t.kind = .byContext .angle ∧ c = .file t Category.comparison)
        ∨ ∃ k outer, treatment k = .filed outer ∧ k ≠ .directive ∧ c = .file (.bare k) outer) := by
  obtain ⟨t, ht, _⟩ := Option.bind_eq_some_iff.mp h
  refine ⟨t, ht, ?_⟩
  rcases classify_cases ht with ⟨outer, hfiled, hc⟩ | ⟨_, hc⟩ | ⟨a, ha, hc⟩
  · exact .inl ⟨outer, hfiled, Option.some.inj (h.symm.trans hc)⟩
  · cases h.symm.trans hc
  · obtain ⟨⟨t', outer⟩, hr, rfl⟩ := Option.map_eq_some_iff.mp (hc.symm.trans h)
    rcases resolved_of_resolve hr with ⟨rfl, rfl, rfl⟩ | ⟨hbare, hne, hfiled, _, _⟩
    · exact .inr (.inl ⟨ha, rfl⟩)
    · exact .inr (.inr ⟨t'.kind, outer, hfiled, hne, by rw [← hbare]⟩)

theorem filesUnder_home : dialect.FilesUnder home := by
  intro w c hc
  obtain ⟨t, _, hcases⟩ := classify_eq_some hc
  rcases hcases with ⟨outer, hfiled, rfl⟩ | ⟨hangle, rfl⟩ | ⟨k, outer, hfiled, _, rfl⟩
  · exact ⟨outer, home_of_filed hfiled, rfl⟩
  · exact ⟨_, home_of_angle hangle, rfl⟩
  · exact ⟨outer, home_of_filed hfiled, rfl⟩

end CFamily

namespace Python

/-- The categories a kind is recorded under, if its tokens are ever recorded. -/
def home (k : Kind) : Option (List String) :=
  match treatment k with
  | .filed outer => some outer
  | .skipped => none

/-- What is classified is the token of the window as it stands. -/
theorem classify_eq_some {w : Window Kind} {c : Classification Kind} (h : classify w = some c) :
    ∃ t outer, w.current = some t ∧ treatment t.kind = .filed outer ∧ c = .file t outer := by
  obtain ⟨t, hw, ht⟩ := Option.bind_eq_some_iff.mp h
  cases htreatment : treatment t.kind with
  | filed outer =>
    rw [htreatment] at ht
    exact ⟨t, outer, hw, htreatment, (Option.some.inj ht).symm⟩
  | skipped =>
    rw [htreatment] at ht
    cases ht
  | byContext a => exact a.elim

theorem filesUnder_home : dialect.FilesUnder home := by
  intro w c hc
  obtain ⟨t, outer, _, ht, rfl⟩ := classify_eq_some hc
  exact ⟨outer, by rw [Classification.file, home, ht], rfl⟩

end Python

namespace Language

/-- Some token among some neighbours is classified as the sighting. -/
def Classifies (l : Language) (s : Sighting) : Prop :=
  match l.family with
  | .cFamily => CFamily.dialect.Classifies s
  | .python => Python.dialect.Classifies s

theorem classifies_of_mem_sightings {l : Language} {text : String} {s : Sighting}
    (h : s ∈ l.sightings text) : l.Classifies s := by
  unfold sightings at h
  unfold Classifies
  cases hfamily : l.family with
  | cFamily =>
    rw [hfamily] at h
    exact Dialect.classifies_of_mem_sightings h
  | python =>
    rw [hfamily] at h
    exact Dialect.classifies_of_mem_sightings h

/-- In one language two sightings with the same literal have the same value and path. -/
theorem sighting_unique {l : Language} {s s' : Sighting} (hs : l.Classifies s)
    (hs' : l.Classifies s') (htoken : s.token = s'.token) : s = s' := by
  unfold Classifies at hs hs'
  cases hfamily : l.family with
  | cFamily =>
    rw [hfamily] at hs hs'
    exact CFamily.filesUnder_home.sighting_unique CFamily.namesDistinct hs hs' htoken
  | python =>
    rw [hfamily] at hs hs'
    exact Python.filesUnder_home.sighting_unique Python.namesDistinct hs hs' htoken

end Language

end ConceptInventory
