import ConceptInventory.Detection
import ConceptInventory.Inventory

/-!
# Findings

The result of one analysis: the video, its language if it was resolved, and
the inventory of concepts. The summary counts the concepts under each root
category, in the order in which the roots first appear.
-/
namespace ConceptInventory

structure Findings where
  video : Video
  language : Option Language
  inventory : Inventory

/-- Counts one more of a name; a new name goes to the end. -/
def countName (tally : List (String × Nat)) (name : String) : List (String × Nat) :=
  match tally with
  | [] => [(name, 1)]
  | t :: rest => if t.1 == name then (t.1, t.2 + 1) :: rest else t :: countName rest name

/-- How often each name occurs, in order of first appearance. -/
def tallyNames (names : List String) : List (String × Nat) := names.foldl countName []

namespace Findings

def roots (f : Findings) : List (String × Nat) :=
  tallyNames (f.inventory.concepts.map fun c => c.path.root)

def summaryLines (f : Findings) : List String :=
  [ "Video '" ++ f.video.hint ++ "'",
    "  Language: " ++ (f.language.map Language.name).getD "unresolved",
    "  Knowledge components: " ++ toString f.inventory.size ]
    ++ f.roots.map fun r => "    " ++ r.1 ++ ": " ++ toString r.2

def summary (f : Findings) : String := "\n".intercalate f.summaryLines

end Findings

end ConceptInventory
