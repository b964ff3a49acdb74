import ConceptInventory.Channel
import ConceptInventory.Detection
import ConceptInventory.Extractor

/-!
# Sessions

A session consumes the items of one channel. If the hint names a language, an
extractor reads every fragment. If not, the session counts the characters it
hears; the fragment that reaches the threshold is shown to the model, once. If
the model names a language, extraction starts with that fragment; if not, the
language stays unresolved. Fragments heard before are dropped for good.
-/
namespace ConceptInventory

/-- What a session knows of the language: it is known, or so many characters
were heard and the model is not asked yet, or the model was asked in vain. -/
inductive Phase
  | known (e : Extractor)
  | counting (heard : Nat)
  | unresolved

structure Session where
  source : String
  threshold : Int
  model : Model
  phase : Phase
  /-- The pieces of code the model was shown, in order. -/
  asked : List String

/-- What a session has found: a language with an inventory, or nothing. -/
structure Outcome where
  language : Option Language
  inventory : Inventory

namespace Session

def start (video : Video) (model : Model) (threshold : Int) : Session :=
  { source := video.url
    threshold := threshold
    model := model
    phase :=
      match languageOfHint video.hint with
      | some l => .known (.start video.url l)
      | none => .counting 0
    asked := [] }

/-- Handles one fragment. -/
def hear (s : Session) (text : String) (offset : Int) : Session :=
  match s.phase with
  | .known e => { s with phase := .known (e.read text offset) }
  | .unresolved => s
  | .counting heard =>
    let heard := heard + text.length
    if (heard : Int) < s.threshold then { s with phase := .counting heard }
    else
      { s with
        asked := s.asked ++ [text]
        phase :=
          match (s.model text).language with
          | some l => .known ((Extractor.start s.source l).read text offset)
          | none => .unresolved }

def outcome (s : Session) : Outcome :=
  match s.phase with
  | .known e => ⟨some e.language, e.inventory⟩
  | .counting _ => ⟨none, .empty⟩
  | .unresolved => ⟨none, .empty⟩

/-- How a session ends: with a final item, with an abort, or not yet. -/
inductive Verdict
  | finished
  | aborted (reason : String)
  | waiting
deriving DecidableEq, Repr

/-- A session after a queue of items: how it ended and what it left. -/
structure Run where
  session : Session
  verdict : Verdict
  left : List Item

def run (s : Session) : List Item → Run
  | [] => ⟨s, .waiting, []⟩
  | .fragment text offset :: rest => (s.hear text offset).run rest
  | .finish _ :: rest => ⟨s, .finished, rest⟩
  | .abort reason :: rest => ⟨s, .aborted reason, rest⟩

end Session

end ConceptInventory
