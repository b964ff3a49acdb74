import ConceptInventory.Inventory

/-!
# Histories

The history of an inventory is the list of all concepts it was given, in order.
Its first occurrences are those whose token no earlier concept has. Whatever the
history, the inventory holds exactly its first occurrences.
-/
namespace ConceptInventory

/-- The concepts whose token no earlier one has, in order. -/
def firstOccurrences : List Concept → List Concept
  | [] => []
  | c :: rest => c :: (firstOccurrences rest).filter fun d => d.token != c.token

theorem mem_of_mem_firstOccurrences {c : Concept} {cs : List Concept}
    (h : c ∈ firstOccurrences cs) : c ∈ cs := by
  induction cs with
  | nil => exact h
  | cons d cs ih =>
    rcases List.mem_cons.1 h with rfl | h
    · exact List.mem_cons_self
    · exact List.mem_cons_of_mem _ (ih (List.mem_filter.1 h).1)

/-- Behind other concepts, those with their tokens are left out. -/
theorem firstOccurrences_append (cs ds : List Concept) :
    firstOccurrences (cs ++ ds) = firstOccurrences cs
      ++ (firstOccurrences ds).filter fun d => !(cs.map Concept.token).contains d.token := by
  induction cs with
  | nil => exact (List.filter_eq_self.2 fun _ _ => rfl).symm
  | cons c cs ih =>
    have hd (d : Concept) : (d.token != c.token && !(cs.map Concept.token).contains d.token)
        = !((c :: cs).map Concept.token).contains d.token := by
      rw [List.map_cons, List.contains_cons, Bool.not_or]
      rfl
    simp only [List.cons_append, firstOccurrences, ih, List.filter_append, List.filter_filter, hd]

/-- First occurrences have the tokens of their history. -/
theorem mem_tokens_firstOccurrences {token : String} {cs : List Concept} :
    token ∈ (firstOccurrences cs).map Concept.token ↔ token ∈ cs.map Concept.token := by
  induction cs with
  | nil => rfl
  | cons c cs ih =>
    by_cases h : token = c.token
    · simp [firstOccurrences, h]
    · have hkept : token ∈ ((firstOccurrences cs).filter fun d => d.token != c.token).map
          Concept.token ↔ token ∈ (firstOccurrences cs).map Concept.token := by
        simp only [List.mem_map, List.mem_filter]
        constructor
        · rintro ⟨d, ⟨hd, _⟩, rfl⟩
          exact ⟨d, hd, rfl⟩
        · rintro ⟨d, hd, rfl⟩
          exact ⟨d, ⟨hd, by simp [h]⟩, rfl⟩
      rw [firstOccurrences, List.map_cons, List.map_cons, List.mem_cons, List.mem_cons, hkept, ih]

/-- Where no token occurs twice, every concept is a first occurrence. -/
theorem firstOccurrences_of_nodup {cs : List Concept} (h : (cs.map Concept.token).Nodup) :
    firstOccurrences cs = cs := by
  induction cs with
  | nil => rfl
  | cons c cs ih =>
    obtain ⟨hnew, hrest⟩ := List.nodup_cons.mp h
    rw [firstOccurrences, ih hrest, List.filter_eq_self.mpr]
    intro d hd
    have hne : d.token ≠ c.token := fun he => hnew (he ▸ List.mem_map_of_mem hd)
    exact bne_iff_ne.mpr hne

namespace Inventory

theorem ext {i j : Inventory} (h : i.concepts = j.concepts) : i = j := by
  cases i
  cases j
  cases h
  rfl

theorem has_iff {i : Inventory} {token : String} :
    i.has token = true ↔ ∃ c ∈ i.concepts, c.token = token := by
  simp [has, tokens]

theorem insert_of_has {i : Inventory} {c : Concept} (h : i.has c.token = true) :
    i.insert c = i := by
  have h : c.token ∈ i.concepts.map Concept.token := by simpa [has, tokens] using h
  rw [insert, dif_pos h]

theorem concepts_insert_of_new {i : Inventory} {c : Concept} (h : i.has c.token = false) :
    (i.insert c).concepts = i.concepts ++ [c] := by
  have h : c.token ∉ i.concepts.map Concept.token := by simpa [has, tokens] using h
  rw [insert, dif_neg h]

theorem has_insert (i : Inventory) (c : Concept) (token : String) :
    (i.insert c).has token = (i.has token || c.token == token) := by
  cases h : i.has c.token with
  | true =>
    rw [insert_of_has h]
    by_cases ht : c.token = token
    · simp [← ht, h]
    · simp [ht]
  | false =>
    rw [has, tokens, concepts_insert_of_new h, has, tokens]
    by_cases ht : c.token = token
    · simp [ht]
    · have ht' : token ≠ c.token := fun h => ht h.symm
      simp [ht, ht']

/-- What is added to an inventory are the first occurrences of what is new. -/
theorem concepts_insertAll (i : Inventory) (cs : List Concept) :
    (i.insertAll cs).concepts
      = i.concepts ++ (firstOccurrences cs).filter fun c => !i.has c.token := by
  induction cs generalizing i with
  | nil => simp [insertAll, firstOccurrences]
  | cons c cs ih =>
    have hstep : i.insertAll (c :: cs) = (i.insert c).insertAll cs := rfl
    rw [hstep, ih, firstOccurrences]
    cases h : i.has c.token with
    | true =>
      rw [insert_of_has h]
      have hd (d : Concept) : (!i.has d.token && d.token != c.token) = !i.has d.token := by
        by_cases he : d.token = c.token <;> simp [he, h]
      simp [h, List.filter_filter, hd]
    | false =>
      have hd (d : Concept) :
          (!(i.insert c).has d.token) = (!i.has d.token && d.token != c.token) := by
        rw [has_insert, Bool.not_or, bne, Bool.beq_comm]
      simp [concepts_insert_of_new h, h, List.filter_filter, hd]

/-- An inventory holds the first occurrences of its history. -/
theorem concepts_ofList (cs : List Concept) : (ofList cs).concepts = firstOccurrences cs := by
  have h : (fun c : Concept => !empty.has c.token) = fun _ => true := by
    funext c
    simp [has, tokens, empty]
  rw [ofList, concepts_insertAll, h]
  simp [empty]

/-- The concepts of an inventory make up the same inventory again. -/
theorem ofList_concepts (i : Inventory) : ofList i.concepts = i := by
  apply ext
  rw [concepts_ofList, firstOccurrences_of_nodup i.distinct]

end Inventory

end ConceptInventory
