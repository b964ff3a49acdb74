import ConceptInventory.Json.Quoted
import ConceptInventory.Text.Printable

/-!
# Text shown in messages

A message shows a text in single quotes, or in double quotes if the text holds
a single quote and no double one. The quote in use and the backslash are
escaped, line feeds, carriage returns and tabs have short escapes, and what
cannot be printed is given by its code point in two, four or eight hexadecimal
digits.
-/
namespace ConceptInventory.Message

def apostrophe : Char := Char.ofNat 0x27

/-- The lowest hexadecimal digits of a number, as many as asked for. -/
def hexDigits : Nat → Nat → List Char
  | 0, _ => []
  | width + 1, n => hexDigits width (n / 16) ++ [Json.hexDigit (n % 16)]

def showChar (quote c : Char) : List Char :=
  if c == quote || c == '\\' then ['\\', c]
  else if c == '\n' then ['\\', 'n']
  else if c == '\r' then ['\\', 'r']
  else if c == '\t' then ['\\', 't']
  else if isPrintable c then [c]
  else if c.toNat < 0x100 then '\\' :: 'x' :: hexDigits 2 c.toNat
  else if c.toNat < 0x10000 then '\\' :: 'u' :: hexDigits 4 c.toNat
  else '\\' :: 'U' :: hexDigits 8 c.toNat

def quoteFor (s : List Char) : Char :=
  if s.contains apostrophe && !s.contains '"' then '"' else apostrophe

def showChars (s : List Char) : List Char :=
  let q := quoteFor s
  q :: s.flatMap (showChar q) ++ [q]

def showText (s : String) : String := String.ofList (showChars s.toList)

/-- A string given by its code points; half a surrogate pair is never printable. -/
def showCodes (codes : List Nat) : String :=
  let q := quoteFor (codes.map charOfCode)
  String.ofList (q :: codes.flatMap (fun n =>
    if isSurrogate n then '\\' :: 'u' :: hexDigits 4 n else showChar q (Char.ofNat n)) ++ [q])

/-- Shown items in brackets, with commas between them. -/
def showList (items : List String) : String := "[" ++ ", ".intercalate items ++ "]"

end ConceptInventory.Message
