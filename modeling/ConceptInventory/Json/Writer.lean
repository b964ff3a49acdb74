import ConceptInventory.Json.Basic
import ConceptInventory.Json.Quoted
import ConceptInventory.Json.Shown

/-!
# Writing JSON

A value is written on one line, or over several lines with every level of
nesting indented by the same number of blanks. Empty lists and objects have
one form in both. Numbers without digits keep the names the reader knows.
-/
namespace ConceptInventory.Json

structure Style where
  /-- Blanks per level; none for one line. -/
  indent : Option Nat
  asciiOnly : Bool
deriving DecidableEq, Repr

namespace Style

/-- A line break and the blanks of a level, if the style has lines. -/
def lineBreak (st : Style) (level : Nat) : List Char :=
  match st.indent with
  | none => []
  | some n => '\n' :: List.replicate (n * level) ' '

/-- Between two items: a comma and either a line break or a blank. -/
def separator (st : Style) (level : Nat) : List Char :=
  match st.indent with
  | none => [',', ' ']
  | some _ => ',' :: st.lineBreak level

/-- Parts between brackets, one level deeper than the brackets. -/
def bracketed (st : Style) (level : Nat) (opening closing : Char) (parts : List (List Char)) :
    List Char :=
  match parts with
  | [] => [opening, closing]
  | p :: rest =>
    opening :: st.lineBreak (level + 1) ++ p ++
      rest.flatMap (fun q => st.separator (level + 1) ++ q) ++ st.lineBreak level ++ [closing]

end Style

def writeReal (x : Float) : List Char :=
  match Decimal.classOf x with
  | .nan => ['N', 'a', 'N']
  | .infinite false => ['I', 'n', 'f', 'i', 'n', 'i', 't', 'y']
  | .infinite true => ['-', 'I', 'n', 'f', 'i', 'n', 'i', 't', 'y']
  | _ => (showReal x).toList

mutual

def write (st : Style) (level : Nat) : Json → List Char
  | .null => ['n', 'u', 'l', 'l']
  | .bool true => ['t', 'r', 'u', 'e']
  | .bool false => ['f', 'a', 'l', 's', 'e']
  | .int i => (toString i).toList
  | .real x => writeReal x
  | .str s => quotedChars st.asciiOnly s.toList
  | .brokenStr codes => quotedCodes st.asciiOnly codes
  | .arr items => st.bracketed level '[' ']' (writeItems st (level + 1) items)
  | .obj fields => st.bracketed level '\x7b' '\x7d' (writeFields st (level + 1) fields)

def writeItems (st : Style) (level : Nat) : List Json → List (List Char)
  | [] => []
  | j :: rest => write st level j :: writeItems st level rest

def writeFields (st : Style) (level : Nat) : List (String × Json) → List (List Char)
  | [] => []
  | (name, j) :: rest =>
    (quotedChars st.asciiOnly name.toList ++ [':', ' '] ++ write st level j)
      :: writeFields st level rest

end

def render (st : Style) (j : Json) : String := String.ofList (write st 0 j)

end ConceptInventory.Json
