import ConceptInventory.Taxonomy.Path
import ConceptInventory.Text.Message

/-!
# Inventories of concepts

A concept is a classified token with the time stamp at which it was shown. An
inventory holds concepts in the order they came, one for each token text: the
first to come stays, so the earliest time stamp is the one kept. Inventories
are values; a snapshot is the inventory itself.
-/
namespace ConceptInventory

structure Concept where
  token : String
  value : String
  stamp : String
  path : CategoryPath
deriving DecidableEq, Repr

/-- Concepts are the same when their tokens are, whenever they were shown. -/
def Concept.same (a b : Concept) : Bool := a.token == b.token

structure Inventory where
  concepts : List Concept
  distinct : (concepts.map Concept.token).Nodup

namespace Inventory

def empty : Inventory := ⟨[], by simp⟩

def tokens (i : Inventory) : List String := i.concepts.map Concept.token

def size (i : Inventory) : Nat := i.concepts.length

def has (i : Inventory) (token : String) : Bool := i.tokens.contains token

def get? (i : Inventory) (token : String) : Option Concept :=
  i.concepts.find? fun c => c.token == token

/-- Adds a concept at the end unless its token is there already. -/
def insert (i : Inventory) (c : Concept) : Inventory :=
  if h : c.token ∈ i.concepts.map Concept.token then i
  else ⟨i.concepts ++ [c], by
    rw [List.map_append, List.nodup_append]
    refine ⟨i.distinct, by simp, ?_⟩
    intro a ha b hb hab
    have hb : b = c.token := List.mem_singleton.1 hb
    exact h (hb ▸ hab ▸ ha)⟩

/-- An insertion takes hold when the token is new. -/
def admits (i : Inventory) (c : Concept) : Bool := !i.has c.token

def insertAll (i : Inventory) (cs : List Concept) : Inventory := cs.foldl insert i

/-- How many of the concepts take hold when they are inserted in turn. -/
def admitted (i : Inventory) : List Concept → Nat
  | [] => 0
  | c :: cs => (if i.admits c then 1 else 0) + (i.insert c).admitted cs

def ofList (cs : List Concept) : Inventory := empty.insertAll cs

def describe (i : Inventory) : String :=
  "KnowledgeComponentRegistry(" ++ Message.showList (i.tokens.map Message.showText) ++ ")"

end Inventory

end ConceptInventory
