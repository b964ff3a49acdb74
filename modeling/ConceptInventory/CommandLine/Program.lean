import ConceptInventory.Analysis
import ConceptInventory.CommandLine.Files
import ConceptInventory.CommandLine.Invocation
import ConceptInventory.CommandLine.Printer
import ConceptInventory.Dialect
import ConceptInventory.Diagnostics
import ConceptInventory.Findings.Export

/-!
# The program

What an invocation prints, the code it exits with and the file it writes, as a
function of its surroundings: the printer, the files it can read, the classifier and
the packages at hand. Two paths of one command agree on the findings: they are
printed, or written to a file and summarised on the console. The summary goes
through the printer, which reads tags in it; a tag that closes nothing ends the
program after the file is written.
-/
namespace ConceptInventory.CommandLine

/-- What the program finds around it: what paths lead to, the classifier where
no other one is given, the packages at hand, and the model behind a classifier. -/
structure Surroundings where
  printer : Printer
  look : PathName → Look
  obstacle? : PathName → Option Obstacle
  classifier : PathName
  classifierState : PathName → PathState
  packages : List String
  model : PathName → Model

/-- What ends the program without its handling it. -/
inductive Failure
  | badMarkup (complaint : String)
  | cannotOpen (o : Obstacle) (path : PathName)
  | endlessPause
  | analysis (e : AnalysisError)
deriving DecidableEq, Repr

def Failure.message : Failure → String
  | .badMarkup complaint => complaint
  | .cannotOpen o path => o.message path
  | .endlessPause => "timestamp too large to convert to C _PyTime_t"
  | .analysis (.producerFailed message) => message
  | .analysis (.channelClosed reason) => reason
  | .analysis .stalled => ""

/-- What the program leaves behind: its exit code, what it printed, the file it
wrote, if it wrote one, and what ended it, if it did not end by itself. -/
structure Result where
  exit : Nat
  printed : String
  written : Option (PathName × String)
  failure : Option Failure
deriving DecidableEq, Repr

namespace Result

def success (printed : String) : Result := ⟨0, printed, none, none⟩

def failed (f : Failure) : Result := ⟨1, "", none, some f⟩

def usage : Result := ⟨2, "", none, none⟩

/-- Exits with a code once all is printed, and with a failure where a complaint
has ended the printing. -/
def ofPrintout (exit : Nat) (p : Printout) : Result :=
  match p.complaint with
  | none => ⟨exit, p.text, none, none⟩
  | some complaint => ⟨1, p.text, none, some (.badMarkup complaint)⟩

end Result

/-! ## Commands -/

def versionText : String := "kcextract v0.1.0"

/-- The program gives up after a message. -/
def giveUp (s : Surroundings) (message : String) : Result :=
  .ofPrintout 1 (s.printer.printAll ["[red]" ++ message ++ "[/]"])

/-- The line behind the summary. -/
def savedLine (path : PathName) : String := "[green]✓ Saved to " ++ path.shown ++ "[/]"

/-- The findings as printed, or as written with a summary on the console. -/
def deliver (s : Surroundings) (output : Option PathName) (f : Findings) : Result :=
  let json := f.render Findings.defaultIndent
  match output with
  | none => .success (json ++ "\n")
  | some path =>
    match s.obstacle? path with
    | some obstacle => .failed (.cannotOpen obstacle path)
    | none =>
      { Result.ofPrintout 0 (s.printer.printAll [f.summary, savedLine path]) with
        written := some (path, json) }

def runAnalyze (s : Surroundings) (o : AnalyzeOptions) : Result :=
  let invalid (complaint : String) : Result :=
    giveUp s ("Invalid transcript " ++ o.transcript.shown ++ ": " ++ complaint)
  match s.look o.transcript with
  | .closed .missing => giveUp s ("Transcript not found: " ++ o.transcript.shown)
  | .closed .zeroByte => invalid (Obstacle.zeroByte.message o.transcript)
  | .closed obstacle => .failed (.cannotOpen obstacle o.transcript)
  | .undecodable complaint => invalid complaint
  | .text content =>
    match Transcript.ofText content with
    | .error e => invalid e.message
    | .ok entries =>
      let settings : Settings := { threshold := o.threshold }
      let model := s.model (o.classifier.getD s.classifier)
      match (analyze o.video model settings (.ofTranscript entries)).result with
      | .ok f =>
        if o.pause = .endless && !entries.isEmpty then .failed .endlessPause
        else deliver s o.output f
      | .error (.channelClosed reason) => giveUp s ("Analysis aborted: " ++ reason)
      | .error e => .failed (.analysis e)

def languageText (l : Option Language) : String :=
  (l.map Language.name).getD "[yellow]unresolved[/]"

def runClassify (s : Surroundings) (text : String) (askModel : Bool)
    (classifier : Option PathName) : Result :=
  let model := s.model (classifier.getD s.classifier)
  let hint := "Hint:  " ++ languageText (languageOfHint text)
  let answer := "Model: " ++ languageText (model text).language
  .ofPrintout 0 (s.printer.printAll (if askModel then [hint, answer] else [hint]))

/-- A row of the token list as a JSON object. -/
def readingJson (r : Reading) : Json :=
  .obj [("token", .str r.token),
    ("resolved", (r.sighting.map fun x => Json.str x.token).getD .null),
    ("chain", (r.sighting.map fun x => Json.str x.path.render).getD .null)]

def indented (asciiOnly : Bool) : Json.Style := ⟨some 2, asciiOnly⟩

/-- The three cells of a row, marked up. -/
def readingCells (p : Printer) (r : Reading) : List String :=
  [ p.escape r.token,
    (r.sighting.map fun x => p.escape x.token).getD "",
    (r.sighting.map fun x => p.escape x.path.render).getD "[dim]skipped[/]" ]

def tokenGrid (p : Printer) (l : Language) (rows : List Reading) : Grid :=
  { title := "Tokens (" ++ l.name ++ ")"
    columns := [⟨"Token", false⟩, ⟨"Resolved", false⟩, ⟨"Category chain", false⟩]
    rows := rows.map (readingCells p)
    ruled := false }

def runTokens (s : Surroundings) (snippet : String) (l : Language) (asJson : Bool) : Result :=
  let rows := l.readings snippet
  if asJson then .success ((Json.arr (rows.map readingJson)).render (indented false) ++ "\n")
  else .ofPrintout 0 (.ofResult (s.printer.grid (tokenGrid s.printer l rows)))

def checkJson (c : Check) : Json :=
  .obj [("name", .str c.item), ("status", .str c.status.name), ("detail", .str c.detail)]

def icon : Status → String
  | .ok => "✅"
  | .warn => "⚠️"
  | .error => "❌"

def healthGrid (checks : List Check) : Grid :=
  { title := "kcextract environment health"
    columns := [⟨"Status", true⟩, ⟨"Item", false⟩, ⟨"Detail", false⟩]
    rows := checks.map fun c => [icon c.status, c.item, c.detail]
    ruled := true }

def tallyText (t : Tally) : String :=
  "[bold]" ++ toString t.ok ++ " OK[/bold], [yellow]" ++ toString t.warn ++
    " warning(s)[/yellow], [red]" ++ toString t.error ++ " error(s)[/red]."

def runDoctor (s : Surroundings) (asJson : Bool) : Result :=
  let checks :=
    Check.collect s.classifier.shown (s.classifierState s.classifier) s.packages
  if asJson then .success ((Json.arr (checks.map checkJson)).render (indented true) ++ "\n")
  else
    .ofPrintout 0 ((Printout.ofResult (s.printer.grid (healthGrid checks))).andThen
      (s.printer.printAll [tallyText (.of (checks.map Check.status))]))

def perform (s : Surroundings) : Invocation → Result
  | .version => .ofPrintout 0 (s.printer.printAll [versionText])
  | .help => .success ""
  | .analyze o => runAnalyze s o
  | .classify text askModel classifier => runClassify s text askModel classifier
  | .tokens snippet l asJson => runTokens s snippet l asJson
  | .doctor asJson => runDoctor s asJson

/-! ## Files around the program -/

/-- The same surroundings, with the files of a store. -/
def Surroundings.on (s : Surroundings) (fs : FileSystem) (d : fs.State) : Surroundings :=
  { s with look := fs.look d, obstacle? := fs.obstacle? d }

/-- The store after a run that started in it. -/
def FileSystem.after (fs : FileSystem) (d : fs.State) (r : Result) : fs.State :=
  match r.written with
  | some (path, content) => fs.write d path content
  | none => d

end ConceptInventory.CommandLine
