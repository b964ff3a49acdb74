import ConceptInventory.CommandLine.Options
import ConceptInventory.Console.Screen

/-!
# Running the program

The arguments are read first, so that only the transcript they name is opened. What
the program would print and write is then computed as a whole and carried out.
No classifier is started from here: a video whose title names no language stays
unresolved.
-/
namespace ConceptInventory.CommandLine

/-- What an attempt to read a file gives. -/
def lookOutside (p : PathName) : IO Look := do
  try
    match String.fromUTF8? (← IO.FS.readBinFile p.shown) with
    | some text => return .text text
    | none => return .undecodable "the bytes are not UTF-8"
  catch
    | .noFileOrDirectory .. => return .closed .missing
    | e => return .closed (.other (toString e))

/-- A file that can be read is taken for a program, since its rights are not known. -/
def stateOutside (p : PathName) : IO PathState := do
  match ← lookOutside p with
  | .closed .missing => return .missing
  | .text _ => return .executable
  | .undecodable _ => return .executable
  | .closed _ => return .directory

/-- The file a run has to read, if any. -/
def Invocation.source? : Invocation → Option PathName
  | .analyze o => some o.transcript
  | .version => none
  | .help => none
  | .classify .. => none
  | .tokens .. => none
  | .doctor _ => none

/-- Whether a file can be written is found out when it is. -/
def surroundings (args : List String) : IO Surroundings := do
  let classifier := .ofText ((← IO.getEnv "KCX_CLASSIFIER").getD "data/classifier/classifier")
  let source := match readInvocation args with
    | .ok i => i.source?
    | .error _ => none
  let found ← match source with
    | some path => lookOutside path
    | none => pure (.closed .missing)
  let state ← stateOutside classifier
  return {
    printer := Console.printer .named
    look := fun _ => found
    obstacle? := fun _ => none
    classifier := classifier
    classifierState := fun _ => state
    packages := packages.map Package.name
    model := fun _ _ => .silent }

end ConceptInventory.CommandLine

open ConceptInventory.CommandLine in
def main (args : List String) : IO UInt32 := do
  let r := run (← surroundings args) args
  if let some (path, content) := r.written then
    try IO.FS.writeFile path.shown content
    catch e =>
      IO.eprintln (toString e)
      return 1
  IO.print r.printed
  if let some f := r.failure then IO.eprintln f.message
  return r.exit.toUInt32
