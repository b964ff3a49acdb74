import ConceptInventory.Json.Basic

/-!
# Quoted text

The written form of a text inside JSON: double quotes around it, a backslash
before quotes and backslashes, short escapes for the common control
characters, `\u` and four lower-case hexadecimal digits for the others. Beyond
ASCII a character stands for itself, or is escaped by its UTF-16 units where
the output must stay within ASCII.
-/
namespace ConceptInventory.Json

/-- Lower-case hexadecimal digit of a value below sixteen. -/
def hexDigit (n : Nat) : Char :=
  if n < 10 then Char.ofNat (0x30 + n) else Char.ofNat (0x57 + n)

/-- The last four hexadecimal digits of a number. -/
def fourHexDigits (n : Nat) : List Char :=
  [hexDigit (n / 0x1000 % 16), hexDigit (n / 0x100 % 16), hexDigit (n / 0x10 % 16),
    hexDigit (n % 16)]

def unicodeEscape (n : Nat) : List Char := '\\' :: 'u' :: fourHexDigits n

/-- One character as it stands between the quotes. -/
def escape (asciiOnly : Bool) (c : Char) : List Char :=
  if c == '"' then ['\\', '"']
  else if c == '\\' then ['\\', '\\']
  else if c == '\n' then ['\\', 'n']
  else if c == '\r' then ['\\', 'r']
  else if c == '\t' then ['\\', 't']
  else if c.toNat == 0x08 then ['\\', 'b']
  else if c.toNat == 0x0C then ['\\', 'f']
  else if c.toNat < 0x20 then unicodeEscape c.toNat
  else if !asciiOnly || c.toNat < 0x7F then [c]
  else if c.toNat < 0x10000 then unicodeEscape c.toNat
  else
    let n := c.toNat - 0x10000
    unicodeEscape (0xD800 + n / 0x400) ++ unicodeEscape (0xDC00 + n % 0x400)

def quotedChars (asciiOnly : Bool) (s : List Char) : List Char :=
  '"' :: s.flatMap (escape asciiOnly) ++ ['"']

/-- Code points in double quotes; half a surrogate pair is always escaped. -/
def quotedCodes (asciiOnly : Bool) (codes : List Nat) : List Char :=
  '"' :: codes.flatMap (fun n =>
    if isSurrogate n then unicodeEscape n else escape asciiOnly (Char.ofNat n)) ++ ['"']

/-- The text in double quotes, characters beyond ASCII raw. -/
def quote (s : String) : String := String.ofList (quotedChars false s.toList)

end ConceptInventory.Json
