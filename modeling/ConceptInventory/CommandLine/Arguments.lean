/-!
# Arguments

Reading a list of arguments into options and positional arguments. A long
option may carry its value after an equals sign, a short one directly behind
its letter; short options without values may share one dash. Otherwise the next
argument is the value, whatever it looks like. Two dashes end the options; one
dash alone is positional.
-/
namespace ConceptInventory.CommandLine

structure OptionSpec where
  /-- What the option is called in the result. -/
  key : String
  long : String
  short : Option Char
  takesValue : Bool
deriving DecidableEq, Repr

inductive UsageError
  | noSuchOption
  | missingValue
  | unexpectedValue
  | missingArgument
  | extraArgument
  | badValue
  | unknownCommand
  | missingCommand
deriving DecidableEq, Repr

/-- Options in the order given, with their values, and the other arguments. -/
structure Parsed where
  options : List (String × Option String)
  positional : List String
deriving DecidableEq, Repr

namespace Parsed

def withOption (key : String) (value : Option String) (p : Parsed) : Parsed :=
  { p with options := (key, value) :: p.options }

def withPositional (a : String) (p : Parsed) : Parsed :=
  { p with positional := a :: p.positional }

/-- The value given last. -/
def value? (p : Parsed) (key : String) : Option String :=
  (p.options.reverse.find? fun o => o.1 == key).bind Prod.snd

def has (p : Parsed) (key : String) : Bool := p.options.any fun o => o.1 == key

end Parsed

/-- What one argument with dashes gives: options that are complete, and an
option whose value is the next argument. -/
structure Letters where
  complete : List (String × Option String)
  waiting : Option String

/-- Short options behind one dash. -/
def readLetters (specs : List OptionSpec) : List Char → Except UsageError Letters
  | [] => .ok ⟨[], none⟩
  | c :: rest =>
    match specs.find? fun o => o.short == some c with
    | none => .error .noSuchOption
    | some o =>
      if o.takesValue then
        if rest.isEmpty then .ok ⟨[], some o.key⟩
        else .ok ⟨[(o.key, some (String.ofList rest))], none⟩
      else (readLetters specs rest).map fun l => ⟨(o.key, none) :: l.complete, l.waiting⟩

/-- One argument that starts with a dash. -/
def readDashed (specs : List OptionSpec) (arg : List Char) : Except UsageError Letters :=
  let name := arg.takeWhile (· != '=')
  let value := (arg.drop name.length).drop 1
  let attached := name.length < arg.length
  match specs.find? fun o => o.long.toList == name with
  | some o =>
    if o.takesValue then
      if attached then .ok ⟨[(o.key, some (String.ofList value))], none⟩
      else .ok ⟨[], some o.key⟩
    else if attached then .error .unexpectedValue
    else .ok ⟨[(o.key, none)], none⟩
  | none =>
    match arg with
    | '-' :: '-' :: _ => .error .noSuchOption
    | _ => readLetters specs (arg.drop 1)

/-- Reads all arguments; unless options may follow positional arguments, the
first of these ends the options. -/
def readArguments (specs : List OptionSpec) (interspersed : Bool) :
    List String → Except UsageError Parsed
  | [] => .ok ⟨[], []⟩
  | arg :: rest =>
    match arg.toList with
    | ['-', '-'] => .ok ⟨[], rest⟩
    | '-' :: c :: cs =>
      match readDashed specs ('-' :: c :: cs) with
      | .error e => .error e
      | .ok l =>
        let add (p : Parsed) : Parsed := { p with options := l.complete ++ p.options }
        match l.waiting with
        | none => (readArguments specs interspersed rest).map add
        | some key =>
          match rest with
          | [] => .error .missingValue
          | v :: rest =>
            (readArguments specs interspersed rest).map fun p => add (p.withOption key (some v))
    | _ =>
      if interspersed then (readArguments specs interspersed rest).map (Parsed.withPositional arg)
      else .ok ⟨[], arg :: rest⟩

end ConceptInventory.CommandLine
