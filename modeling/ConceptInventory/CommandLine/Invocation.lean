import ConceptInventory.CommandLine.Path
import ConceptInventory.Findings.Basic

/-!
# Invocations

What the program can be asked to do: its commands with their options, the paths among
them as they are shown. A pause changes nothing that is found, so all that is kept of it
is whether a clock that counts nanoseconds in 63 bits can measure it.
-/
namespace ConceptInventory.CommandLine

/-- Whether a pause can be waited for. -/
inductive Pause
  | bearable
  | endless
deriving DecidableEq, Repr

structure AnalyzeOptions where
  transcript : PathName
  video : Video
  output : Option PathName
  classifier : Option PathName
  threshold : Int
  pause : Pause
deriving DecidableEq, Repr

inductive Invocation
  | version
  | help
  | analyze (o : AnalyzeOptions)
  | classify (text : String) (askModel : Bool) (classifier : Option PathName)
  | tokens (snippet : String) (language : Language) (asJson : Bool)
  | doctor (asJson : Bool)
deriving DecidableEq, Repr

end ConceptInventory.CommandLine
