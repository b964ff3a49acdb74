import ConceptInventory.CommandLine.Invocation
import ConceptInventory.Text.Blank

/-!
# Numbers as arguments

A whole number may have a sign, blanks around it, and single underscores
between its digits, which may be those of any script of Unicode; it has at most
4300 of them. A number of seconds may have a fraction and an exponent as well, or be
one of the names for infinity and for what is no number. A pause changes
nothing that is found, so all that is kept of it is whether a clock that counts
nanoseconds in 63 bits can measure it.
-/
namespace ConceptInventory.CommandLine

/-! ## Digits -/

/-- The code points of the zeros. Each script has its ten digits in a row. -/
def zeroDigits : List Nat := [
  0x0030, 0x0660, 0x06F0, 0x07C0, 0x0966, 0x09E6, 0x0A66, 0x0AE6, 0x0B66, 0x0BE6, 0x0C66, 0x0CE6,
  0x0D66, 0x0DE6, 0x0E50, 0x0ED0, 0x0F20, 0x1040, 0x1090, 0x17E0, 0x1810, 0x1946, 0x19D0, 0x1A80,
  0x1A90, 0x1B50, 0x1BB0, 0x1C40, 0x1C50, 0xA620, 0xA8D0, 0xA900, 0xA9D0, 0xA9F0, 0xAA50, 0xABF0,
  0xFF10, 0x104A0, 0x10D30, 0x11066, 0x110F0, 0x11136, 0x111D0, 0x112F0, 0x11450, 0x114D0,
  0x11650, 0x116C0, 0x11730, 0x118E0, 0x11950, 0x11C50, 0x11D50, 0x11DA0, 0x16A60, 0x16AC0,
  0x16B50, 0x1D7CE, 0x1D7D8, 0x1D7E2, 0x1D7EC, 0x1D7F6, 0x1E140, 0x1E2F0, 0x1E950, 0x1FBF0]

/-- The value of a digit. -/
def digitValue? (c : Char) : Option Nat :=
  (zeroDigits.find? fun z => z ≤ c.toNat && c.toNat < z + 10).map fun z => c.toNat - z

/-! ## Whole numbers -/

/-- Blanks that may stand around a number, the information separators excepted. -/
def isNumberBlank (c : Char) : Bool := isBlank c && !(0x1C ≤ c.toNat && c.toNat ≤ 0x1F)

mutual

/-- The values of digits with single underscores between them, and what
follows. -/
def digitGroup : List Char → List Nat × List Char
  | [] => ([], [])
  | c :: rest =>
    match digitValue? c with
    | none => ([], c :: rest)
    | some d => ((digitTail rest).1.cons d, (digitTail rest).2)

/-- More digits of a group, each after one underscore or none. -/
def digitTail : List Char → List Nat × List Char
  | [] => ([], [])
  | c :: rest =>
    if c == '_' then
      match digitGroup rest with
      | ([], _) => ([], c :: rest)
      | more => more
    else
      match digitValue? c with
      | none => ([], c :: rest)
      | some d => ((digitTail rest).1.cons d, (digitTail rest).2)

end

/-- A sign at the front, minus being true, and what follows it. -/
def splitSign : List Char → Bool × List Char
  | '-' :: rest => (true, rest)
  | '+' :: rest => (false, rest)
  | s => (false, s)

def natOfValues (ds : List Nat) : Nat := ds.foldl (fun n d => 10 * n + d) 0

def readInt? (s : String) : Option Int :=
  let (negative, body) := splitSign (trim isNumberBlank s).toList
  match digitGroup body with
  | ([], _) => none
  | (ds, []) =>
    if 4300 < ds.length then none
    else some (if negative then -natOfValues ds else natOfValues ds)
  | _ => none

/-- An exponent up to the end, zero where there is nothing. -/
def exponentAtEnd? : List Char → Option Int
  | [] => some 0
  | c :: rest =>
    if c == 'e' || c == 'E' then
      let (negative, body) := splitSign rest
      match digitGroup body with
      | (d :: ds, []) =>
        some (if negative then -natOfValues (d :: ds) else natOfValues (d :: ds))
      | _ => none
    else none

/-- A number without a sign: the digits before and after the point, and the
exponent. -/
def decimal? (s : List Char) : Option (List Nat × List Nat × Int) :=
  match digitGroup s with
  | (ds, '.' :: rest) =>
    let (fs, rest) := digitGroup rest
    if ds.isEmpty && fs.isEmpty then none else (exponentAtEnd? rest).map fun e => (ds, fs, e)
  | (ds, rest) => if ds.isEmpty then none else (exponentAtEnd? rest).map fun e => (ds, [], e)

/-- Whether m · 10^e seconds are less than 2^63 nanoseconds. -/
def isMeasurable (m : Nat) (e : Int) : Bool :=
  match e + 9 with
  | .ofNat k => m * Nat.pow 10 k < Nat.pow 2 63
  | .negSucc k => m < Nat.pow 2 63 * Nat.pow 10 (k + 1)

/-- The pause of m · 10^e seconds. Where the power of ten above it is far from
the limit, the exponent is not worked out. -/
def Pause.ofDecimal (m : Nat) (e : Int) : Pause :=
  let above := (Nat.toDigits 10 m).length + e
  if m = 0 ∨ above < 9 then .bearable
  else if 11 < above then .endless
  else if isMeasurable m e then .bearable
  else .endless

def readPause? (s : String) : Option Pause :=
  let (negative, body) := splitSign (trim isNumberBlank s).toList
  let name := (String.ofList body).toLower
  if name == "nan" then some .bearable
  else if name == "inf" || name == "infinity" then some (if negative then .bearable else .endless)
  else
    (decimal? body).map fun (ds, fs, e) =>
      if negative then .bearable else .ofDecimal (natOfValues (ds ++ fs)) (e - fs.length)

end ConceptInventory.CommandLine
