import ConceptInventory.Extractor

/-!
# Requests to an extractor

An extractor in use is asked to read fragments and for snapshots, in any order.
Reading answers how many concepts were new. A snapshot is an inventory of its
own, filled with what is held at the time. A journal is an extractor with the
answers it gave, so that what was handed out can be compared with what is held
later.
-/
namespace ConceptInventory

inductive Request
  | read (fragment : String) (offset : Int)
  | snapshot

/-- A new inventory with the concepts held so far. -/
def Extractor.snapshot (e : Extractor) : Inventory := .ofList e.inventory.concepts

/-- An extractor with the answers it gave, the oldest first. -/
structure Journal where
  extractor : Extractor
  counts : List Nat
  snapshots : List Inventory

namespace Journal

def start (source : String) (l : Language) : Journal := ⟨.start source l, [], []⟩

def serve (j : Journal) : Request → Journal
  | .read fragment offset =>
    { j with
      extractor := j.extractor.read fragment offset
      counts := j.counts ++ [j.extractor.growth fragment offset] }
  | .snapshot => { j with snapshots := j.snapshots ++ [j.extractor.snapshot] }

def serveAll (j : Journal) (rs : List Request) : Journal := rs.foldl serve j

end Journal

namespace Request

/-- What a request shows in a language: a concept for each token of a fragment that is
classified, with a link to the source at the offset of the fragment. -/
def shown (source : String) (l : Language) : Request → List Concept
  | .read fragment offset =>
    (l.readings fragment).filterMap fun r =>
      r.sighting.map fun s => ⟨s.token, s.value, source ++ "&t=" ++ toString offset, s.path⟩
  | .snapshot => []

/-- All that requests show, in their order and repetitions included. -/
def history (source : String) (l : Language) (rs : List Request) : List Concept :=
  rs.flatMap (shown source l)

end Request

end ConceptInventory
