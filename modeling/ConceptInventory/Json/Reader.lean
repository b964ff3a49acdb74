import ConceptInventory.Json.Basic
import ConceptInventory.Text.WordCharacter

/-!
# Reading JSON

The reader works over a list of characters and returns a value with what is
left of the text. A failure names its cause and what is left of the text at
the place it happened; the place as a line, a column and an index is worked
out once, at the end. Beyond the standard it knows three names for numbers
that have no digits, and it refuses whole numbers of more than 4300 digits.
-/
namespace ConceptInventory.Json

inductive Fault
  | value | name | colon | comma | extra | unterminated | control | escape | unicodeEscape
  | byteOrderMark
  | digits (count : Nat)
deriving DecidableEq, Repr

def Fault.message : Fault → String
  | .value => "Expecting value"
  | .name => "Expecting property name enclosed in double quotes"
  | .colon => "Expecting ':' delimiter"
  | .comma => "Expecting ',' delimiter"
  | .extra => "Extra data"
  | .unterminated => "Unterminated string starting at"
  | .control => "Invalid control character at"
  | .escape => "Invalid \\escape"
  | .unicodeEscape => "Invalid \\uXXXX escape"
  | .byteOrderMark => "Unexpected UTF-8 BOM (decode using utf-8-sig)"
  | .digits count =>
    "Exceeds the limit (4300 digits) for integer string conversion: value has " ++
      toString count ++ " digits; use sys.set_int_max_str_digits() to increase the limit"

/-- A cause and what is left of the text where it happened. -/
structure Failure where
  fault : Fault
  rest : List Char
deriving DecidableEq, Repr

abbrev Reader (α : Type) := List Char → Except Failure (α × List Char)

def isSpace (c : Char) : Bool := c == ' ' || c == '\t' || c == '\n' || c == '\r'

def skipSpace (s : List Char) : List Char := s.dropWhile isSpace

/-! ## Strings -/

def hexValue? (c : Char) : Option Nat :=
  if '0' ≤ c && c ≤ '9' then some (c.toNat - 0x30)
  else if 'a' ≤ c && c ≤ 'f' then some (c.toNat - 0x57)
  else if 'A' ≤ c && c ≤ 'F' then some (c.toNat - 0x37)
  else none

def fourHexValue? (a b c d : Char) : Option Nat :=
  match hexValue? a, hexValue? b, hexValue? c, hexValue? d with
  | some a, some b, some c, some d => some (((a * 16 + b) * 16 + c) * 16 + d)
  | _, _, _, _ => none

/-- The character a backslash and one letter stand for. -/
def shortEscape? (c : Char) : Option Nat :=
  match c with
  | '"' | '\\' | '/' => some c.toNat
  | 'b' => some 0x08
  | 'f' => some 0x0C
  | 'n' => some 0x0A
  | 'r' => some 0x0D
  | 't' => some 0x09
  | _ => none

def prepend (n : Nat) (r : Except Failure (List Nat × List Char)) :
    Except Failure (List Nat × List Char) :=
  r.map fun (ns, rest) => (n :: ns, rest)

/-- Reads up to the closing quote. Characters and escapes give code points or
UTF-16 units. The four digits of an escape must not be the end of the text;
the start of the string is remembered for the case that it never ends. -/
def units (start : List Char) : Reader (List Nat)
  | [] => .error ⟨.unterminated, start⟩
  | '"' :: rest => .ok ([], rest)
  | '\\' :: 'u' :: rest =>
    match rest with
    | a :: b :: c :: d :: e :: more =>
      match fourHexValue? a b c d with
      | some n => prepend n (units start (e :: more))
      | none => .error ⟨.unicodeEscape, 'u' :: rest⟩
    | _ => .error ⟨.unicodeEscape, 'u' :: rest⟩
  | '\\' :: c :: rest =>
    match shortEscape? c with
    | some n => prepend n (units start rest)
    | none => .error ⟨.escape, '\\' :: c :: rest⟩
  | ['\\'] => .error ⟨.unterminated, start⟩
  | c :: rest =>
    if c.toNat < 0x20 then .error ⟨.control, c :: rest⟩ else prepend c.toNat (units start rest)

/-- Joins surrogate pairs; the other units are code points as they are. -/
def joinUnits : List Nat → List Nat
  | hi :: lo :: rest =>
    if 0xD800 ≤ hi && hi < 0xDC00 && 0xDC00 ≤ lo && lo < 0xE000 then
      (0x10000 + (hi - 0xD800) * 0x400 + (lo - 0xDC00)) :: joinUnits rest
    else hi :: joinUnits (lo :: rest)
  | [n] => [n]
  | [] => []

/-- The code points of a string whose opening quote, the front of the start, is
already read. -/
def string (start : List Char) : Reader (List Nat) := fun s =>
  (units start s).map fun (ns, rest) => (joinUnits ns, rest)

/-! ## Numbers -/

/-- The parts of a number as written: sign, whole digits, digits of the
fraction and exponent, where they are there. -/
structure Numeral where
  negative : Bool
  whole : List Char
  fraction : Option (List Char)
  exponent : Option (Bool × List Char)

/-- A run of digits that is not empty. -/
def digitRun? (s : List Char) : Option (List Char × List Char) :=
  match s.takeWhile isDigit with
  | [] => none
  | ds => some (ds, s.dropWhile isDigit)

/-- Whole digits: a zero stands alone. -/
def wholeDigits? : List Char → Option (List Char × List Char)
  | '0' :: rest => some (['0'], rest)
  | s => digitRun? s

/-- A point and a fraction, left unread unless a digit follows the point. -/
def fraction (s : List Char) : Option (List Char) × List Char :=
  match s with
  | '.' :: rest =>
    match digitRun? rest with
    | some (ds, rest) => (some ds, rest)
    | none => (none, s)
  | _ => (none, s)

/-- The sign of an exponent and what follows it. -/
def exponentSign : List Char → Bool × List Char
  | '-' :: rest => (true, rest)
  | '+' :: rest => (false, rest)
  | s => (false, s)

/-- An exponent, left unread unless it has digits. -/
def exponent (s : List Char) : Option (Bool × List Char) × List Char :=
  match s with
  | c :: rest =>
    if c == 'e' || c == 'E' then
      match digitRun? (exponentSign rest).2 with
      | some (ds, more) => (some ((exponentSign rest).1, ds), more)
      | none => (none, s)
    else (none, s)
  | [] => (none, s)

def numeral? (s : List Char) : Option (Numeral × List Char) :=
  let (negative, s) := match s with
    | '-' :: rest => (true, rest)
    | _ => (false, s)
  (wholeDigits? s).map fun (whole, s) =>
    let (f, s) := fraction s
    let (e, s) := exponent s
    (⟨negative, whole, f, e⟩, s)

def natOfDigits (ds : List Char) : Nat := ds.foldl (fun n d => 10 * n + (d.toNat - 0x30)) 0

/-- The floating-point number nearest to m · 10^e. The power of ten above the
number decides whether it is far outside the range, and then the exponent need
not be worked out; zeros in front of m have no part in it. -/
def nearestReal (m : Nat) (e : Int) : Float :=
  let above := (Nat.toDigits 10 m).length + e
  if m = 0 then 0
  else if 400 < above then 1 / 0
  else if above < -400 then 0
  else
    match e with
    | .ofNat k => Float.ofScientific (m * Nat.pow 10 k) false 0
    | .negSucc k => Float.ofScientific m true (k + 1)

def Numeral.value (n : Numeral) : Except Fault Json :=
  match n.fraction, n.exponent with
  | none, none =>
    if 4300 < n.whole.length then .error (.digits n.whole.length)
    else
      let m : Int := natOfDigits n.whole
      .ok (.int (if n.negative then -m else m))
  | f, e =>
    let ds := n.whole ++ f.getD []
    let shift : Int := match e with
      | none => 0
      | some (true, es) => -natOfDigits es
      | some (false, es) => natOfDigits es
    let x := nearestReal (natOfDigits ds) (shift - (f.getD []).length)
    .ok (.real (if n.negative then -x else x))

/-! ## Values -/

/-- Names that stand for a value, with the value. -/
def names : List (List Char × Json) := [
  (['n', 'u', 'l', 'l'], .null), (['t', 'r', 'u', 'e'], .bool true),
  (['f', 'a', 'l', 's', 'e'], .bool false), (['N', 'a', 'N'], .real (0 / 0)),
  (['I', 'n', 'f', 'i', 'n', 'i', 't', 'y'], .real (1 / 0)),
  (['-', 'I', 'n', 'f', 'i', 'n', 'i', 't', 'y'], .real (-1 / 0))]

/-- A value without parts: a name or a number. -/
def scalar : Reader Json := fun s =>
  match names.find? fun e => e.1.isPrefixOf s with
  | some (name, j) => .ok (j, s.drop name.length)
  | none =>
    match numeral? s with
    | none => .error ⟨.value, s⟩
    | some (n, rest) =>
      match n.value with
      | .ok j => .ok (j, rest)
      | .error fault => .error ⟨fault, s⟩

mutual

/-- A value that starts at the front. Each step spends one unit of fuel; twice
the length of the text is always enough. -/
def value : Nat → Reader Json
  | 0, s => .error ⟨.value, s⟩
  | fuel + 1, s =>
    match s with
    | '"' :: rest => (string s rest).map fun (codes, rest) => (ofCodes codes, rest)
    | '[' :: rest =>
      match skipSpace rest with
      | ']' :: rest => .ok (.arr [], rest)
      | rest => (items fuel rest).map fun (js, rest) => (.arr js, rest)
    | '\x7b' :: rest =>
      match skipSpace rest with
      | '\x7d' :: rest => .ok (.obj [], rest)
      | rest => (fields fuel rest).map fun (fs, rest) => (ofFields fs, rest)
    | _ => scalar s

/-- The items of a list that has some, and its closing bracket. -/
def items : Nat → Reader (List Json)
  | 0, s => .error ⟨.value, s⟩
  | fuel + 1, s =>
    match value fuel s with
    | .error e => .error e
    | .ok (j, rest) =>
      match skipSpace rest with
      | ']' :: rest => .ok ([j], rest)
      | ',' :: rest => (items fuel (skipSpace rest)).map fun (js, rest) => (j :: js, rest)
      | rest => .error ⟨.comma, rest⟩

/-- The fields of an object that has some, and its closing brace. -/
def fields : Nat → Reader (List (String × Json))
  | 0, s => .error ⟨.value, s⟩
  | fuel + 1, s =>
    match s with
    | '"' :: rest =>
      match string s rest with
      | .error e => .error e
      | .ok (codes, rest) =>
        match skipSpace rest with
        | ':' :: rest =>
          match value fuel (skipSpace rest) with
          | .error e => .error e
          | .ok (j, rest) =>
            match skipSpace rest with
            | '\x7d' :: rest => .ok ([(textOfCodes codes, j)], rest)
            | ',' :: rest =>
              (fields fuel (skipSpace rest)).map fun (fs, rest) =>
                ((textOfCodes codes, j) :: fs, rest)
            | rest => .error ⟨.comma, rest⟩
        | rest => .error ⟨.colon, rest⟩
    | _ => .error ⟨.name, s⟩

end

/-- Reads a text that holds one value and nothing but blanks around it. -/
def document (s : List Char) : Except Failure Json :=
  if s.head? == some (Char.ofNat 0xFEFF) then .error ⟨.byteOrderMark, s⟩
  else
    match value (2 * s.length + 2) (skipSpace s) with
    | .error e => .error e
    | .ok (j, rest) =>
      match skipSpace rest with
      | [] => .ok j
      | rest => .error ⟨.extra, rest⟩

/-! ## Places -/

/-- The index, line and column of the place where a rest of the text begins;
line and column count from one. -/
structure Place where
  index : Nat
  line : Nat
  column : Nat
deriving DecidableEq, Repr

def placeOf (text rest : List Char) : Place :=
  let before := text.take (text.length - rest.length)
  ⟨before.length, before.count '\n' + 1,
    (before.reverse.takeWhile fun c => c != '\n').length + 1⟩

inductive ReadError
  | syntaxAt (fault : Fault) (place : Place)
  | tooManyDigits (count : Nat)
deriving DecidableEq, Repr

def ReadError.message : ReadError → String
  | .syntaxAt fault p =>
    fault.message ++ ": line " ++ toString p.line ++ " column " ++ toString p.column ++
      " (char " ++ toString p.index ++ ")"
  | .tooManyDigits count => (Fault.digits count).message

def read (text : String) : Except ReadError Json :=
  match document text.toList with
  | .ok j => .ok j
  | .error ⟨.digits count, _⟩ => .error (.tooManyDigits count)
  | .error ⟨fault, rest⟩ => .error (.syntaxAt fault (placeOf text.toList rest))

end ConceptInventory.Json
