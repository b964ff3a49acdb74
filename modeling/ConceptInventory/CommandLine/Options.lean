import ConceptInventory.CommandLine.Arguments
import ConceptInventory.CommandLine.Numbers
import ConceptInventory.CommandLine.Program

/-!
# Options

The commands of the program and their options, read from the arguments. What
is asked for is known before anything is done: an argument that cannot be read
ends the program with a usage error and no output.
-/
namespace ConceptInventory.CommandLine

abbrev Usage (α : Type) := Except UsageError α

def helpOption : OptionSpec := ⟨"help", "--help", none, false⟩

def globalOptions : List OptionSpec := [
  ⟨"version", "--version", some 'v', false⟩,
  ⟨"verbose", "--verbose", none, false⟩,
  helpOption]

def analyzeSpecs : List OptionSpec := [
  ⟨"url", "--url", some 'u', true⟩,
  ⟨"title", "--title", some 't', true⟩,
  ⟨"output", "--output", some 'o', true⟩,
  ⟨"classifier", "--classifier", none, true⟩,
  ⟨"threshold", "--threshold", none, true⟩,
  ⟨"poll-interval", "--poll-interval", none, true⟩,
  helpOption]

def classifySpecs : List OptionSpec := [
  ⟨"model", "--model", some 'm', false⟩,
  ⟨"classifier", "--classifier", none, true⟩,
  helpOption]

def tokensSpecs : List OptionSpec := [
  ⟨"language", "--language", some 'l', true⟩,
  ⟨"json", "--json", none, false⟩,
  helpOption]

def doctorSpecs : List OptionSpec := [⟨"json", "--json", none, false⟩, helpOption]

/-- The positional argument of a command that takes one. -/
def oneArgument (p : Parsed) : Usage String :=
  match p.positional with
  | [a] => .ok a
  | [] => .error .missingArgument
  | _ => .error .extraArgument

def noArgument (p : Parsed) : Usage Unit :=
  if p.positional.isEmpty then .ok () else .error .extraArgument

def required (p : Parsed) (key : String) : Usage String :=
  match p.value? key with
  | some v => .ok v
  | none => .error .missingArgument

/-- An option with a value that must be readable if it is given. -/
def readable {α : Type} (read : String → Option α) (p : Parsed) (key : String) (absent : α) :
    Usage α :=
  match p.value? key with
  | none => .ok absent
  | some s =>
    match read s with
    | some a => .ok a
    | none => .error .badValue

def readAnalyze (p : Parsed) : Usage Invocation := do
  let transcript ← oneArgument p
  let url ← required p "url"
  let threshold ← readable readInt? p "threshold" ({} : Settings).threshold
  let pause ← readable readPause? p "poll-interval" .bearable
  return .analyze {
    transcript := .ofText transcript
    video := ⟨url, some ((p.value? "title").getD "")⟩
    output := (p.value? "output").map .ofText
    classifier := (p.value? "classifier").map .ofText
    threshold := threshold
    pause := pause }

def readClassify (p : Parsed) : Usage Invocation := do
  return .classify (← oneArgument p) (p.has "model") ((p.value? "classifier").map .ofText)

def readTokens (p : Parsed) : Usage Invocation := do
  let snippet ← oneArgument p
  let language ← readable Language.ofName? p "language" .cpp
  return .tokens snippet language (p.has "json")

def readDoctor (p : Parsed) : Usage Invocation := do
  noArgument p
  return .doctor (p.has "json")

/-- Reads the arguments of one command; asking for help outranks the rest. -/
def readCommand (specs : List OptionSpec) (read : Parsed → Usage Invocation)
    (args : List String) : Usage Invocation := do
  let p ← readArguments specs true args
  if p.has "help" then return .help
  read p

/-- What the options in front of a command ask for by themselves, the first of
them if there are several. -/
def immediate? (p : Parsed) : Option Invocation :=
  p.options.findSome? fun o =>
    if o.1 == "version" then some .version
    else if o.1 == "help" then some .help
    else none

/-- Reads the arguments of the program. Where no command is named they are read
once more from there, so that version and help are found behind two dashes. -/
def readInvocation (args : List String) : Usage Invocation := do
  let p ← readArguments globalOptions false args
  if let some i := immediate? p then return i
  match p.positional with
  | [] => throw .missingCommand
  | "analyze" :: rest => readCommand analyzeSpecs readAnalyze rest
  | "classify" :: rest => readCommand classifySpecs readClassify rest
  | "tokens" :: rest => readCommand tokensSpecs readTokens rest
  | "doctor" :: rest => readCommand doctorSpecs readDoctor rest
  | rest =>
    match immediate? (← readArguments globalOptions false rest) with
    | some i => return i
    | none => throw .unknownCommand

/-- Runs the program on its arguments. -/
def run (s : Surroundings) (args : List String) : Result :=
  match readInvocation args with
  | .error _ => .usage
  | .ok i => perform s i

end ConceptInventory.CommandLine
