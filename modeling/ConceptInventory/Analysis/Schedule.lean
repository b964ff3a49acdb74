import ConceptInventory.Analysis

/-!
# Schedules of an analysis

The producer and the session of one analysis take their steps in any order. The
producer sends what its script holds and then closes: an abort is sent when it
fails, and when it returns although the channel has not ended. The session takes
one item at a time and stops at the first that ends it; while the channel is
empty it can take no step. A state no step leads on from is final.
-/
namespace ConceptInventory.Schedule

/-- What the producer has yet to do. -/
inductive Producer
  | sending (unsent : List Item) (ending : Ending)
  | closed
deriving DecidableEq, Repr

structure State where
  producer : Producer
  channel : Channel
  session : Session
  verdict : Session.Verdict

def State.start (s : Session) (script : Script) : State :=
  ⟨.sending script.sent script.ending, .empty, s, .waiting⟩

inductive Step : State → State → Prop
  | send {i : Item} {unsent : List Item} {ending : Ending} {c : Channel} {s : Session}
      {v : Session.Verdict} :
      Step ⟨.sending (i :: unsent) ending, c, s, v⟩ ⟨.sending unsent ending, c.send i, s, v⟩
  | fail {message : String} {c : Channel} {s : Session} {v : Session.Verdict} :
      Step ⟨.sending [] (.failed message), c, s, v⟩
        ⟨.closed, c.send (.abort (Script.failureReason message)), s, v⟩
  | close {c : Channel} {s : Session} {v : Session.Verdict} (h : c.ended = true) :
      Step ⟨.sending [] .returned, c, s, v⟩ ⟨.closed, c, s, v⟩
  | giveUp {c : Channel} {s : Session} {v : Session.Verdict} (h : c.ended = false) :
      Step ⟨.sending [] .returned, c, s, v⟩
        ⟨.closed, c.send (.abort Script.unfinishedReason), s, v⟩
  | hear {p : Producer} {c d : Channel} {s : Session} {text : String} {offset : Int}
      (h : c.receive = some (.fragment text offset, d)) :
      Step ⟨p, c, s, .waiting⟩ ⟨p, d, s.hear text offset, .waiting⟩
  | finish {p : Producer} {c d : Channel} {s : Session} {offset : Int}
      (h : c.receive = some (.finish offset, d)) :
      Step ⟨p, c, s, .waiting⟩ ⟨p, d, s, .finished⟩
  | abort {p : Producer} {c d : Channel} {s : Session} {reason : String}
      (h : c.receive = some (.abort reason, d)) :
      Step ⟨p, c, s, .waiting⟩ ⟨p, d, s, .aborted reason⟩

/-- Any number of steps. -/
inductive Steps : State → State → Prop
  | refl {a : State} : Steps a a
  | step {a b c : State} (h : Steps a b) (hs : Step b c) : Steps a c

def State.isFinal (a : State) : Prop := ∀ b, ¬Step a b

end ConceptInventory.Schedule
