import ConceptInventory.Findings.Basic
import ConceptInventory.Session
import ConceptInventory.Transcript

/-!
# Analyses

One analysis runs a producer against a session. A producer is a script: the
items it sends, in order, and whether it returns or fails. When it fails, or
returns without a final item, an abort is sent in its place so that the session
cannot wait for ever. A failure of the producer outranks whatever the session
found. How long either side pauses has no part in the findings.
-/
namespace ConceptInventory

/-- A pause in seconds, mantissa / 10^places. -/
structure Seconds where
  mantissa : Int
  places : Nat
deriving DecidableEq, Repr

/-- How many characters are heard before the model is asked, and the pause
after each fragment. -/
structure Settings where
  threshold : Int := 8
  pollInterval : Seconds := ⟨5, 1⟩
deriving DecidableEq, Repr

inductive Ending
  | returned
  | failed (message : String)
deriving DecidableEq, Repr

structure Script where
  sent : List Item
  ending : Ending
deriving DecidableEq, Repr

namespace Script

/-- The reason of the abort for a producer that returns too early. -/
def unfinishedReason : String := "producer returned without sending End"

/-- The reason of the abort for a producer that fails. It wakes the session and
is never shown, since the failure outranks it. -/
def failureReason (message : String) : String := "producer failed: " ++ message

/-- What is sent after the producer is done. -/
def closing (s : Script) : List Item :=
  match s.ending with
  | .failed message => [.abort (failureReason message)]
  | .returned => if s.sent.any Item.isFinish then [] else [.abort unfinishedReason]

def queue (s : Script) : List Item := s.sent ++ s.closing

/-- The script of a replayed transcript. -/
def ofTranscript (es : List Entry) : Script := ⟨Transcript.replay es, .returned⟩

end Script

inductive AnalysisError
  | producerFailed (message : String)
  | channelClosed (reason : String)
  /-- Nothing was left to receive and nothing will come. -/
  | stalled
deriving DecidableEq, Repr

/-- What an analysis gives, and what the model was asked on the way. -/
structure Analysis where
  result : Except AnalysisError Findings
  asked : List String

/-- What both sides come to once they have stopped. -/
def conclude (video : Video) (ending : Ending) (verdict : Session.Verdict) (session : Session) :
    Analysis :=
  let result :=
    match ending with
    | .failed message => .error (.producerFailed message)
    | .returned =>
      match verdict with
      | .aborted reason => .error (.channelClosed reason)
      | .waiting => .error .stalled
      | .finished =>
        let o := session.outcome
        .ok ⟨video, o.language, o.inventory⟩
  ⟨result, session.asked⟩

def analyze (video : Video) (model : Model) (settings : Settings) (script : Script) : Analysis :=
  let run := (Session.start video model settings.threshold).run script.queue
  conclude video script.ending run.verdict run.session

end ConceptInventory
