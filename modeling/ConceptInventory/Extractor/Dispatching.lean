import ConceptInventory.Extractor

/-!
# Requests to a dispatcher

A dispatcher in use is asked to bind, to read and for snapshots, in any order. A
refusal is an answer like any other, and later requests are served as before it.
What the requests say by themselves stands beside: which binding came first, and
which fragments were read behind it.
-/
namespace ConceptInventory

inductive DispatchRequest
  | bind (source : String) (l : Language)
  | read (fragment : String) (offset : Int)
  | snapshot
deriving DecidableEq, Repr

inductive DispatchAnswer
  | done
  | snapshot (i : Inventory)
  | refused (e : DispatchError)

namespace Dispatcher

/-- The answer to a request and the dispatcher it leaves. -/
def serve (d : Dispatcher) : DispatchRequest → DispatchAnswer × Dispatcher
  | .bind source l =>
    match d.bind source l with
    | .ok next => (.done, next)
    | .error e => (.refused e, d)
  | .read fragment offset => (.done, d.read fragment offset)
  | .snapshot =>
    match d.inventory with
    | .ok i => (.snapshot i, d)
    | .error e => (.refused e, d)

def answer (d : Dispatcher) (r : DispatchRequest) : DispatchAnswer := (d.serve r).1

/-- The dispatcher after some requests. -/
def serveAll (d : Dispatcher) (rs : List DispatchRequest) : Dispatcher :=
  rs.foldl (fun d r => (d.serve r).2) d

/-- What some requests are answered in turn. -/
def answers (d : Dispatcher) : List DispatchRequest → List DispatchAnswer
  | [] => []
  | r :: rs => d.answer r :: (d.serve r).2.answers rs

end Dispatcher

namespace DispatchRequest

def binding? : DispatchRequest → Option (String × Language)
  | .bind source l => some (source, l)
  | .read _ _ => none
  | .snapshot => none

def fragment? : DispatchRequest → Option (String × Int)
  | .bind _ _ => none
  | .read fragment offset => some (fragment, offset)
  | .snapshot => none

/-- Source and language of the first binding asked for. -/
def firstBinding? (rs : List DispatchRequest) : Option (String × Language) :=
  rs.findSome? binding?

/-- The fragments read behind the first binding, in order. -/
def fragmentsBound : List DispatchRequest → List (String × Int)
  | [] => []
  | .bind _ _ :: rs => rs.filterMap fragment?
  | .read _ _ :: rs => fragmentsBound rs
  | .snapshot :: rs => fragmentsBound rs

end DispatchRequest

end ConceptInventory
