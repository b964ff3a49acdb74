/-!
# Diagnostics

Checks of what the program needs: the classifier at its path, and two packages
of the command line. A missing classifier only warns, since a title may name
the language; a path that is no executable file, and a missing package, are
errors.
-/
namespace ConceptInventory

inductive Status
  | ok | warn | error
deriving DecidableEq, Repr

namespace Status

def all : List Status := [.ok, .warn, .error]

def name : Status → String
  | .ok => "ok"
  | .warn => "warn"
  | .error => "error"

def ofName? (s : String) : Option Status := all.find? fun t => t.name == s

end Status

structure Check where
  item : String
  status : Status
  detail : String
deriving DecidableEq, Repr

/-- What stands at the path of the classifier. -/
inductive PathState
  | missing | directory | plainFile | executable
deriving DecidableEq, Repr

structure Package where
  name : String
  title : String
  purpose : String

/-- The packages of the command line, all of them required. -/
def packages : List Package := [
  ⟨"typer", "Typer", "the kcx command line"⟩,
  ⟨"rich", "Rich", "the kcx console output"⟩]

namespace Check

def classifier (path : String) : PathState → Check
  | .missing => ⟨"Language classifier", .warn,
      "Not found at " ++ path ++ ". Titles without a language name will stay unresolved; " ++
        "set KCX_CLASSIFIER to the classifier executable."⟩
  | .directory => ⟨"Language classifier", .error, path ++ " is not an executable file"⟩
  | .plainFile => ⟨"Language classifier", .error, path ++ " is not an executable file"⟩
  | .executable => ⟨"Language classifier", .ok, "Executable at " ++ path⟩

def package (p : Package) (available : Bool) : Check :=
  if available then ⟨p.title, .ok, p.title ++ " available for " ++ p.purpose⟩
  else ⟨p.title, .error,
    p.title ++ " missing; " ++ p.purpose ++ " needs it (pip install " ++ p.name ++ ")"⟩

/-- All checks, given the state of the path and the packages at hand. -/
def collect (path : String) (state : PathState) (available : List String) : List Check :=
  classifier path state :: packages.map fun p => package p (available.contains p.name)

end Check

/-- How many checks have each status. -/
structure Tally where
  ok : Nat
  warn : Nat
  error : Nat
deriving DecidableEq, Repr

def Tally.of (statuses : List Status) : Tally :=
  ⟨statuses.count .ok, statuses.count .warn, statuses.count .error⟩

end ConceptInventory
