/-!
# Channels

The ordered, unbounded queue between a producer and the session that consumes
it. A producer sends fragments and a final item, or aborts; a channel has ended
once a final item was sent, whatever is sent afterwards. Receiving from an
empty channel waits.
-/
namespace ConceptInventory

inductive Item
  | fragment (text : String) (offset : Int)
  | finish (offset : Int)
  | abort (reason : String)
deriving DecidableEq, Repr

/-- A final item, not an abort. -/
def Item.isFinish : Item → Bool
  | .finish _ => true
  | _ => false

structure Channel where
  items : List Item
  ended : Bool
deriving DecidableEq, Repr

namespace Channel

def empty : Channel := ⟨[], false⟩

def send (c : Channel) (i : Item) : Channel := ⟨c.items ++ [i], c.ended || i.isFinish⟩

def sendAll (c : Channel) (is : List Item) : Channel := is.foldl send c

/-- The next item and the channel without it, none while there is nothing. -/
def receive (c : Channel) : Option (Item × Channel) :=
  match c.items with
  | [] => none
  | i :: rest => some (i, { c with items := rest })

end Channel

end ConceptInventory
