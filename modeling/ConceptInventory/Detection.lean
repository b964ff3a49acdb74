import ConceptInventory.Language

/-!
# Videos and their languages

What the caller knows of a video: its address starts every time stamp; its title
hints at the language, or the address does where the title is empty or not known.
There are two ways to find the language. The hint is searched for the names of
languages, in a fixed order. A model outside the program is shown a piece of code
and may answer with a label; no answer, an unknown label and a failure all mean
that the language stays unresolved.
-/
namespace ConceptInventory

structure Video where
  url : String
  title : Option String
deriving DecidableEq, Repr

def Video.hint (v : Video) : String :=
  match v.title with
  | some t => if t.isEmpty then v.url else t
  | none => v.url

/-- The needle stands somewhere in the text. -/
def occursIn (needle : List Char) : List Char → Bool
  | [] => needle.isEmpty
  | c :: rest => needle.isPrefixOf (c :: rest) || occursIn needle rest

/-- Words to look for, in lower case, the first line that fits decides. -/
def hintWords : List (List String × Language) := [
  (["c++", "cpp"], .cpp),
  (["java"], .java),
  (["python"], .python),
  (["c "], .c)]

/-- The language a hint names. Only ASCII letters make up the words, and no
other letter has one of them as its lower case. -/
def languageOfHint (hint : String) : Option Language :=
  let text := hint.toLower.toList
  (hintWords.find? fun e => e.1.any fun w => occursIn w.toList text).map Prod.snd

/-- What a model says to a piece of code. -/
inductive Reply
  | label (l : String)
  | silent
  | failed (reason : String)
deriving DecidableEq, Repr

/-- A model as a function of the code it is shown. -/
abbrev Model := String → Reply

def languageOfLabel (label : String) : Option Language :=
  match trimBlanks label with
  | "c_cpp" => some .cpp
  | "java" => some .java
  | "python" => some .python
  | _ => none

def Reply.language : Reply → Option Language
  | .label l => languageOfLabel l
  | .silent => none
  | .failed _ => none

/-- How one run of an outside classifier ended: it took too long, it could not
be run or read, or it exited with a code and an output. -/
inductive ClassifierRun
  | timedOut
  | notRun
  | exited (code : Int) (output : String)
deriving DecidableEq, Repr

namespace ClassifierRun

/-- The command line of a run. -/
def arguments (binary snippet : String) : List String := [binary, snippet]

/-- Only a clean exit gives a label. -/
def reply : ClassifierRun → Reply
  | .timedOut => .silent
  | .notRun => .silent
  | .exited code output => if code = 0 then .label (trimBlanks output) else .silent

end ClassifierRun

end ConceptInventory
