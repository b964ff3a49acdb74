import ConceptInventory.Inventory.Lineage
import ConceptInventory.Proofs.Extraction
import Mathlib.Data.Finset.Card

/-!
# Inventories that are copied go their own ways

Each inventory of a lineage holds the first occurrences of its own history, however
insertions and copies alternate. A change acts on the inventories as on their
histories, and leaves all places but its own as they are.
-/
namespace ConceptInventory

/-! ## One inventory and its history -/

/-- The first concept with a token is a first occurrence. -/
theorem find?_firstOccurrences (token : String) (cs : List Concept) :
    (firstOccurrences cs).find? (fun c => c.token == token)
      = cs.find? fun c => c.token == token := by
  induction cs with
  | nil => rfl
  | cons c cs ih =>
    rw [firstOccurrences, List.find?_cons, List.find?_cons]
    cases hc : c.token == token with
    | true => rfl
    | false =>
      have hother (d : Concept) :
          decide ((d.token != c.token) = true ∧ (d.token == token) = true)
            = (d.token == token) := by
        have hne : c.token ≠ token := by simpa using hc
        by_cases hd : d.token = token
        · simp [hd, hne.symm]
        · simp [hd]
      simp only [List.find?_filter, hother, ih]

namespace Inventory

/-- What an inventory tells of itself, by what it was given. -/
structure Reflects (i : Inventory) (h : List Concept) : Prop where
  concepts : i.concepts = firstOccurrences h
  tokens (token : String) : token ∈ i.tokens ↔ ∃ c ∈ h, c.token = token
  admits (c : Concept) : i.admits c = true ↔ ∀ d ∈ h, d.token ≠ c.token
  get (token : String) : i.get? token = h.find? fun c => c.token == token
  has (token : String) : i.has token = true ↔ token ∈ i.tokens
  hasConcept (c : Concept) : i.hasConcept c = true ↔ ∃ d ∈ i.concepts, d.same c = true
  size : i.size = (h.map Concept.token).toFinset.card

theorem has_iff_mem_tokens {i : Inventory} {token : String} :
    i.has token = true ↔ token ∈ i.tokens := List.contains_iff_mem

theorem reflects_ofList (h : List Concept) : (ofList h).Reflects h := by
  have hconcepts : (ofList h).concepts = firstOccurrences h := concepts_ofList h
  have htokens (token : String) : token ∈ (ofList h).tokens ↔ ∃ c ∈ h, c.token = token := by
    rw [tokens, hconcepts, mem_tokens_firstOccurrences, List.mem_map]
  exact {
    concepts := hconcepts
    tokens := htokens
    admits c := by
      rw [admits, Bool.not_eq_true', ← Bool.not_eq_true, has_iff_mem_tokens, htokens]
      simp
    get token := by rw [get?, hconcepts, find?_firstOccurrences]
    has token := has_iff_mem_tokens
    hasConcept c := by
      rw [hasConcept, has_iff]
      simp [Concept.same]
    size := by
      have hsame : (ofList h).tokens.toFinset = (h.map Concept.token).toFinset := by
        ext token
        rw [List.mem_toFinset, List.mem_toFinset, htokens, List.mem_map]
      rw [← hsame, tokens, List.toFinset_card_of_nodup (ofList h).distinct, List.length_map]
      rfl }

theorem insert_ofList (h : List Concept) (c : Concept) :
    (ofList h).insert c = ofList (h ++ [c]) := by
  rw [ofList, ofList, insertAll_append]
  rfl

end Inventory

/-! ## The row -/

namespace Lineage

open LineageChange

theorem serveAll_cons (f : Lineage) (c : LineageChange) (changes : List LineageChange) :
    f.serveAll (c :: changes) = (f.serve c).2.serveAll changes := rfl

/-- A change acts on the inventories as on their histories. -/
theorem members_serve {f : Lineage} {hs : List (List Concept)}
    (h : f.members = hs.map .ofList) (change : LineageChange) :
    (f.serve change).2.members = (record hs change).map .ofList := by
  cases change with
  | insert k c =>
    rw [serve, record, h, List.getElem?_map]
    cases hk : hs[k]? with
    | none =>
      have hout : hs.length ≤ k := List.getElem?_eq_none_iff.mp hk
      rw [List.modify_eq_self hout]
      exact h
    | some history =>
      apply List.ext_getElem?
      intro j
      by_cases hj : k = j
      · subst hj
        obtain ⟨hlt, rfl⟩ := List.getElem?_eq_some_iff.mp hk
        simp [hlt, Inventory.insert_ofList]
      · simp [List.getElem?_set_ne hj, List.getElem?_modify_ne _ _ hj]
  | copy k =>
    rw [serve, record, h, List.getElem?_map]
    cases hk : hs[k]? with
    | none => simpa using h
    | some history => simp [Inventory.ofList_concepts]

theorem members_serveAll {f : Lineage} {hs : List (List Concept)}
    (h : f.members = hs.map .ofList) (changes : List LineageChange) :
    (f.serveAll changes).members = (changes.foldl record hs).map .ofList := by
  induction changes generalizing f hs with
  | nil => exact h
  | cons change changes ih => exact ih (members_serve h change)

/-- A change leaves the inventories at all other places alone; a copy is made at a
place of its own. -/
theorem getElem?_serve {f : Lineage} {k : Nat} {i : Inventory} (hk : f.members[k]? = some i)
    {change : LineageChange} (hother : ∀ c, change ≠ .insert k c) :
    (f.serve change).2.members[k]? = some i := by
  cases change with
  | insert j c =>
    have hne : j ≠ k := fun hjk => hother c (congrArg (LineageChange.insert · c) hjk)
    rw [serve]
    split
    · exact (List.getElem?_set_ne hne).trans hk
    · exact hk
  | copy j =>
    rw [serve]
    split
    · have hlt : k < f.members.length := (List.getElem?_eq_some_iff.mp hk).choose
      exact (List.getElem?_append_left hlt).trans hk
    · exact hk

theorem getElem?_serveAll {f : Lineage} {k : Nat} {i : Inventory} (hk : f.members[k]? = some i)
    {changes : List LineageChange} (hother : ∀ c, .insert k c ∉ changes) :
    (f.serveAll changes).members[k]? = some i := by
  induction changes generalizing f with
  | nil => exact hk
  | cons change changes ih =>
    rw [serveAll_cons]
    apply ih
    · exact getElem?_serve hk fun c hc => hother c (hc ▸ List.mem_cons_self)
    · exact fun c hc => hother c (List.mem_cons_of_mem _ hc)

/-- After any insertions and copies each inventory reflects its own history. An
insertion is answered by whether its token is new to that history; a copy is made
at a new place, with all that its original holds. Whatever is done to the others,
copies and originals alike, an inventory stays as it is. -/
theorem serveAll_reflects (initial : List Concept) (changes : List LineageChange) :
    let f := (start initial).serveAll changes
    let hs := histories initial changes
    f.members.length = hs.length
      ∧ ∀ k i h, f.members[k]? = some i → hs[k]? = some h →
        i.Reflects h
        ∧ (∀ c, ∃ new, (f.serve (.insert k c)).1 = .inserted new
          ∧ (new = true ↔ ∀ d ∈ h, d.token ≠ c.token))
        ∧ (f.serve (.copy k)).1 = .copied f.members.length
        ∧ (f.serve (.copy k)).2.members = f.members ++ [i]
        ∧ ∀ later, (∀ c, .insert k c ∉ later) → (f.serveAll later).members[k]? = some i := by
  intro f hs
  have hstart : (start initial).members = [initial].map .ofList := rfl
  have hmembers : f.members = hs.map .ofList := members_serveAll hstart changes
  refine ⟨by rw [hmembers, List.length_map], ?_⟩
  intro k i h hi hh
  obtain rfl : i = .ofList h := by
    rw [hmembers, List.getElem?_map, hh] at hi
    exact (Option.some.inj hi).symm
  have hreflects := Inventory.reflects_ofList h
  refine ⟨hreflects, ?_, ?_, ?_, fun later => getElem?_serveAll hi⟩
  · intro c
    refine ⟨(Inventory.ofList h).admits c, ?_, hreflects.admits c⟩
    rw [serve, hi]
  · rw [serve, hi]
  · rw [serve, hi]
    exact congrArg (f.members ++ [·]) (Inventory.ofList_concepts _)

end Lineage

end ConceptInventory
