/-!
# JSON values

Whole numbers are exact, the others are binary floating-point numbers. An
object keeps its fields in order, each name once. A string may be written with
half a surrogate pair in it, which is no character; it is no text then, and is kept
apart from strings that are. Where a text is needed of it all the same, the
replacement character stands for each half.
-/
namespace ConceptInventory

/-- Half of a surrogate pair. -/
def isSurrogate (n : Nat) : Bool := 0xD800 ≤ n && n < 0xE000

def charOfCode (n : Nat) : Char := if isSurrogate n then Char.ofNat 0xFFFD else Char.ofNat n

def textOfCodes (codes : List Nat) : String := String.ofList (codes.map charOfCode)

inductive Json
  | null
  | bool (b : Bool)
  | int (i : Int)
  | real (x : Float)
  | str (s : String)
  | brokenStr (codes : List Nat)
  | arr (items : List Json)
  | obj (fields : List (String × Json))
deriving Inhabited

namespace Json

/-- The string of some code points. -/
def ofCodes (codes : List Nat) : Json :=
  if codes.any isSurrogate then .brokenStr codes else .str (textOfCodes codes)

/-- The text of a string. -/
def text? : Json → Option String
  | .str s => some s
  | .brokenStr codes => some (textOfCodes codes)
  | .null => none
  | .bool _ => none
  | .int _ => none
  | .real _ => none
  | .arr _ => none
  | .obj _ => none

/-- Sets a field; a name that is there already keeps its place. -/
def setField (fields : List (String × Json)) (name : String) (value : Json) :
    List (String × Json) :=
  match fields with
  | [] => [(name, value)]
  | f :: rest => if f.1 == name then (name, value) :: rest else f :: setField rest name value

/-- An object from fields as they are written: of equal names the last counts. -/
def ofFields (fields : List (String × Json)) : Json :=
  .obj (fields.foldl (fun o f => setField o f.1 f.2) [])

def fieldOf? (fields : List (String × Json)) (name : String) : Option Json :=
  (fields.find? fun f => f.1 == name).map Prod.snd

end Json

end ConceptInventory
