import ConceptInventory.Decimal.Shortest
import ConceptInventory.Json.Basic
import ConceptInventory.Text.Message

/-!
# Values shown in messages

A message that refuses a value shows it, or names its type. Numbers that are
not whole are shown with the fewest digits that read back: positional from
1e-4 up to below 1e16, otherwise with an exponent of at least two digits.
-/
namespace ConceptInventory.Json

open Decimal

def zeros (n : Nat) : List Char := List.replicate n '0'

def showExponent (e : Int) : List Char :=
  let digits := Nat.toDigits 10 e.natAbs
  'e' :: (if e < 0 then '-' else '+') :: (zeros (2 - digits.length) ++ digits)

def showScientific (s : Scientific) : List Char :=
  let ds := significant s.digits
  if -4 ≤ s.exponent && s.exponent < 16 then
    match s.exponent with
    | .negSucc j => '0' :: '.' :: (zeros j ++ ds)
    | .ofNat j =>
      if ds.length ≤ j + 1 then ds ++ zeros (j + 1 - ds.length) ++ ['.', '0']
      else ds.take (j + 1) ++ '.' :: ds.drop (j + 1)
  else
    match ds with
    | [d] => d :: showExponent s.exponent
    | d :: rest => d :: '.' :: rest ++ showExponent s.exponent
    | [] => []

def showReal (x : Float) : String :=
  let signed (negative : Bool) (s : List Char) := String.ofList (if negative then '-' :: s else s)
  match classOf x with
  | .nan => "nan"
  | .infinite negative => signed negative ['i', 'n', 'f']
  | .zero negative => signed negative ['0', '.', '0']
  | .finite negative s => signed negative (showScientific s)

mutual

/-- The value as a message shows it. -/
def shown : Json → String
  | .null => "None"
  | .bool true => "True"
  | .bool false => "False"
  | .int i => toString i
  | .real x => showReal x
  | .str s => Message.showText s
  | .brokenStr codes => Message.showCodes codes
  | .arr items => "[" ++ ", ".intercalate (shownItems items) ++ "]"
  | .obj fields => "\x7b" ++ ", ".intercalate (shownFields fields) ++ "\x7d"

def shownItems : List Json → List String
  | [] => []
  | j :: rest => j.shown :: shownItems rest

def shownFields : List (String × Json) → List String
  | [] => []
  | (name, j) :: rest => (Message.showText name ++ ": " ++ j.shown) :: shownFields rest

end

/-- The name messages have for the type of a value. -/
def typeName : Json → String
  | .null => "NoneType"
  | .bool _ => "bool"
  | .int _ => "int"
  | .real _ => "float"
  | .str _ => "str"
  | .brokenStr _ => "str"
  | .arr _ => "list"
  | .obj _ => "dict"

/-- Said of a value that fields are looked up in although it has none. -/
def noFieldsMessage : Json → String
  | .arr _ => "list indices must be integers or slices, not str"
  | .str _ => "string indices must be integers, not 'str'"
  | .brokenStr _ => "string indices must be integers, not 'str'"
  | j => "'" ++ j.typeName ++ "' object is not subscriptable"

end ConceptInventory.Json
