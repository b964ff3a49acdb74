/-!
# Category paths

A path of categories from the outermost to the innermost. It is never empty,
so the outermost name stands apart from the names below it. Paths are built
from the leaf outward.
-/
namespace ConceptInventory

structure CategoryPath where
  root : String
  below : List String
deriving DecidableEq, Repr

namespace CategoryPath

def names (p : CategoryPath) : List String := p.root :: p.below

def leaf (name : String) : CategoryPath := ⟨name, []⟩

/-- The same path with one more category outside it. -/
def wrap (p : CategoryPath) (name : String) : CategoryPath := ⟨name, p.names⟩

/-- Wraps a leaf in categories given outermost first. -/
def build (leafName : String) (outer : List String) : CategoryPath :=
  outer.foldr (fun name p => p.wrap name) (leaf leafName)

def ofNames? : List String → Option CategoryPath
  | [] => none
  | r :: rest => some ⟨r, rest⟩

def innermost (p : CategoryPath) : String := p.names.getLast (by simp [names])

def length (p : CategoryPath) : Nat := p.names.length

def contains (p : CategoryPath) (name : String) : Bool := p.names.contains name

def render (p : CategoryPath) : String := " -> ".intercalate p.names

/-- Said where a path would have to be built from no names at all. -/
def emptyMessage : String := "CategoryChain needs at least one category"

@[simp] theorem names_build (l : String) (outer : List String) :
    (build l outer).names = outer ++ [l] := by
  induction outer with
  | nil => rfl
  | cons c r ih => simpa [build, wrap, names] using ih

end CategoryPath

end ConceptInventory
