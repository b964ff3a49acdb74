import ConceptInventory.Inventory

/-!
# Inventories and their copies

Inventories that come from one another stand in a row, in the order they were
made: the first is filled from a list of concepts, each other one is a copy of one
that stood there before. An inventory is known by its place in the row, and from
then on each goes its own way.
-/
namespace ConceptInventory

/-- Looks a concept up by what makes concepts the same, its token. -/
def Inventory.hasConcept (i : Inventory) (c : Concept) : Bool := i.has c.token

structure Lineage where
  members : List Inventory

inductive LineageChange
  | insert (member : Nat) (c : Concept)
  | copy (member : Nat)
deriving DecidableEq, Repr

/-- An insertion is answered by whether it took hold, a copy by its place. -/
inductive LineageAnswer
  | inserted (new : Bool)
  | copied (member : Nat)
  | noMember
deriving DecidableEq, Repr

namespace Lineage

def start (cs : List Concept) : Lineage := ⟨[.ofList cs]⟩

/-- The answer to a change and the inventories it leaves. -/
def serve (f : Lineage) : LineageChange → LineageAnswer × Lineage
  | .insert k c =>
    match f.members[k]? with
    | some i => (.inserted (i.admits c), ⟨f.members.set k (i.insert c)⟩)
    | none => (.noMember, f)
  | .copy k =>
    match f.members[k]? with
    | some i => (.copied f.members.length, ⟨f.members ++ [.ofList i.concepts]⟩)
    | none => (.noMember, f)

def serveAll (f : Lineage) (changes : List LineageChange) : Lineage :=
  changes.foldl (fun f c => (f.serve c).2) f

end Lineage

namespace LineageChange

/-- What a change adds to the histories of the inventories: the history of a copy
begins with that of its original up to then. -/
def record (hs : List (List Concept)) : LineageChange → List (List Concept)
  | .insert k c => hs.modify k (· ++ [c])
  | .copy k => hs ++ hs[k]?.toList

/-- The history of each inventory, in the order they were made. -/
def histories (initial : List Concept) (changes : List LineageChange) : List (List Concept) :=
  changes.foldl record [initial]

end LineageChange

end ConceptInventory
