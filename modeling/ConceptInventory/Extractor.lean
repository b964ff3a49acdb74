import ConceptInventory.Dialect
import ConceptInventory.Inventory

/-!
# Extraction

An extractor reads fragments of one source in one language and collects the
concepts they show. A dispatcher is an extractor whose language may not be
known yet: it drops what it reads until it is bound, and it is bound at most
once.
-/
namespace ConceptInventory

/-- Link to a source at an offset in seconds. -/
def stampAt (source : String) (offset : Int) : String := source ++ "&t=" ++ toString offset

def Sighting.at (s : Sighting) (stamp : String) : Concept := ⟨s.token, s.value, stamp, s.path⟩

structure Extractor where
  source : String
  language : Language
  inventory : Inventory

namespace Extractor

def start (source : String) (language : Language) : Extractor := ⟨source, language, .empty⟩

/-- What a fragment shows, stamped with its offset, repetitions included. -/
def shown (e : Extractor) (fragment : String) (offset : Int) : List Concept :=
  (e.language.sightings fragment).map fun s => s.at (stampAt e.source offset)

def read (e : Extractor) (fragment : String) (offset : Int) : Extractor :=
  { e with inventory := e.inventory.insertAll (e.shown fragment offset) }

/-- How many concepts of a fragment are new when it is read. -/
def growth (e : Extractor) (fragment : String) (offset : Int) : Nat :=
  e.inventory.admitted (e.shown fragment offset)

def readAll (e : Extractor) (fragments : List (String × Int)) : Extractor :=
  fragments.foldl (fun e f => e.read f.1 f.2) e

def describe (e : Extractor) : String :=
  e.language.family.extractorName ++ "(" ++ e.language.name ++ ", " ++
    toString e.inventory.size ++ " components)"

end Extractor

inductive Dispatcher
  | unbound
  | bound (e : Extractor)

inductive DispatchError
  | alreadyBound (language : Language)
  | unbound
deriving DecidableEq, Repr

def DispatchError.message : DispatchError → String
  | .alreadyBound l => "ProtoParser already bound to " ++ l.name
  | .unbound => "ProtoParser is unbound; no registry to snapshot"

namespace Dispatcher

def isBound : Dispatcher → Bool
  | .unbound => false
  | .bound _ => true

def language : Dispatcher → Option Language
  | .unbound => none
  | .bound e => some e.language

def bind (d : Dispatcher) (source : String) (l : Language) : Except DispatchError Dispatcher :=
  match d with
  | .unbound => .ok (.bound (.start source l))
  | .bound e => .error (.alreadyBound e.language)

def read (d : Dispatcher) (fragment : String) (offset : Int) : Dispatcher :=
  match d with
  | .unbound => .unbound
  | .bound e => .bound (e.read fragment offset)

def inventory : Dispatcher → Except DispatchError Inventory
  | .unbound => .error .unbound
  | .bound e => .ok e.inventory

end Dispatcher

end ConceptInventory
