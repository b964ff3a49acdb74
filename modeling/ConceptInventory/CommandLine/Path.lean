/-!
# Paths as they are shown

A path is shown without empty components and without components that are a
single dot. Two slashes at the start, and no more, are kept; a path of nothing
else is a dot. The program knows a path by the text it is shown as.
-/
namespace ConceptInventory.CommandLine

/-- Cuts a text at its slashes. -/
def cutAtSlashes (s : List Char) : List (List Char) :=
  s.foldr (fun c parts =>
    if c == '/' then [] :: parts
    else match parts with
      | [] => [[c]]
      | p :: rest => (c :: p) :: rest) [[]]

/-- The components of a path, empty ones and single dots left out. -/
def components (path : String) : List String :=
  ((cutAtSlashes path.toList).map String.ofList).filter fun c => c != "" && c != "."

/-- The slashes a path starts with, as they are shown. -/
def rootOf (path : String) : String :=
  match path.toList.takeWhile (· == '/') with
  | [] => ""
  | ['/', '/'] => "//"
  | _ => "/"

def isAbsolute (path : String) : Bool := rootOf path != ""

def normalPath (path : String) : String :=
  let shown := rootOf path ++ "/".intercalate (components path)
  if shown == "" then "." else shown

/-- A path, by the text it is shown as. -/
structure PathName where
  shown : String
deriving DecidableEq, Repr

def PathName.ofText (path : String) : PathName := ⟨normalPath path⟩

end ConceptInventory.CommandLine
