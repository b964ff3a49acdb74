import ConceptInventory.Extractor
import ConceptInventory.Inventory.History

/-!
# Extraction as insertion

What an extractor has read shows in its inventory only: the source and the
language stay, and the inventory has been given all that the fragments show, in
order. What reading returns is what the inventory grows by. So everything said of
histories holds of extractors.
-/
namespace ConceptInventory

namespace Inventory

theorem insertAll_append (i : Inventory) (cs ds : List Concept) :
    i.insertAll (cs ++ ds) = (i.insertAll cs).insertAll ds := by
  simp only [insertAll, List.foldl_append]

theorem admitted_append (i : Inventory) (cs ds : List Concept) :
    i.admitted (cs ++ ds) = i.admitted cs + (i.insertAll cs).admitted ds := by
  induction cs generalizing i with
  | nil => simp [admitted, insertAll]
  | cons c cs ih =>
    rw [List.cons_append, admitted, admitted, ih, Nat.add_assoc]
    rfl

theorem size_insert (i : Inventory) (c : Concept) :
    (i.insert c).size = i.size + if i.admits c then 1 else 0 := by
  cases h : i.has c.token with
  | true =>
    rw [insert_of_has h, admits, h]
    rfl
  | false =>
    rw [size, concepts_insert_of_new h, List.length_append, admits, h]
    rfl

/-- The inventory grows by one for each concept that takes hold. -/
theorem size_insertAll (i : Inventory) (cs : List Concept) :
    (i.insertAll cs).size = i.size + i.admitted cs := by
  induction cs generalizing i with
  | nil => rfl
  | cons c cs ih =>
    have hstep : i.insertAll (c :: cs) = (i.insert c).insertAll cs := rfl
    rw [hstep, ih, size_insert, admitted, Nat.add_assoc]

/-- A token is held if it was held before or is inserted. -/
theorem has_insertAll (i : Inventory) (cs : List Concept) (token : String) :
    (i.insertAll cs).has token = (i.has token || (cs.map Concept.token).contains token) := by
  induction cs generalizing i with
  | nil => simp [insertAll]
  | cons c cs ih =>
    have hstep : i.insertAll (c :: cs) = (i.insert c).insertAll cs := rfl
    rw [hstep, ih, has_insert, List.map_cons, List.contains_cons, Bool.or_assoc, Bool.beq_comm]

end Inventory

namespace Extractor

@[simp] theorem read_language (e : Extractor) (fragment : String) (offset : Int) :
    (e.read fragment offset).language = e.language := rfl

theorem readAll_cons (e : Extractor) (f : String × Int) (fs : List (String × Int)) :
    e.readAll (f :: fs) = (e.read f.1 f.2).readAll fs := rfl

@[simp] theorem readAll_language (e : Extractor) (fs : List (String × Int)) :
    (e.readAll fs).language = e.language := by
  induction fs generalizing e with
  | nil => rfl
  | cons f fs ih => rw [readAll_cons, ih, read_language]

/-- Reading fragments gives the inventory all they show, in order. -/
theorem readAll_inventory (e : Extractor) (fs : List (String × Int)) :
    (e.readAll fs).inventory
      = e.inventory.insertAll (fs.flatMap fun f => e.shown f.1 f.2) := by
  induction fs generalizing e with
  | nil => rfl
  | cons f fs ih =>
    rw [readAll_cons, ih, List.flatMap_cons, Inventory.insertAll_append]
    rfl

/-- A fresh extractor holds the first occurrences of what it was shown. -/
theorem readAll_start_concepts (source : String) (l : Language) (fs : List (String × Int)) :
    ((start source l).readAll fs).inventory.concepts
      = firstOccurrences (fs.flatMap fun f => (start source l).shown f.1 f.2) := by
  rw [readAll_inventory]
  exact Inventory.concepts_ofList _

theorem size_read (e : Extractor) (fragment : String) (offset : Int) :
    (e.read fragment offset).inventory.size = e.inventory.size + e.growth fragment offset :=
  e.inventory.size_insertAll (e.shown fragment offset)

end Extractor

end ConceptInventory
