import ConceptInventory.Console.EmojiNames
import ConceptInventory.Text.Blank
import Std.Data.HashMap

/-!
# Emoji codes

A name between two colons, without blanks, stands for an emoji. Upper and lower
case are the same in a name. A name may end with a hyphen and one of two words,
which say whether the emoji is shown as a picture or as text. A name that is none
stays as it is, together with both of its colons.
-/
namespace ConceptInventory.Emoji

/-- The mark behind a character that is shown as a picture. -/
def asPicture : Char := Char.ofNat 0xFE0F

/-- The mark behind a character that is shown as text. -/
def asText : Char := Char.ofNat 0xFE0E

/-! ## Names -/

def tones : List (String × Char) := [
  ("dark", Char.ofNat 0x1F3FF), ("light", Char.ofNat 0x1F3FB), ("medium-dark", Char.ofNat 0x1F3FE),
  ("medium-light", Char.ofNat 0x1F3FC), ("medium", Char.ofNat 0x1F3FD)]

/-- The tone follows the first character, in the place of a picture mark. -/
def toned (tone : Char) : List Char → List Char
  | [] => []
  | c :: rest => c :: tone :: (if rest.head? = some asPicture then rest.tail else rest)

/-- A name of the list with all its spellings and what they stand for. -/
def spellings (emoji name : List Char) : List (String × List Char) :=
  let stem := String.ofList (name.filter fun c => c != '^' && c != '~')
  (stem, emoji)
    :: (if name.contains '^' then
        tones.map fun (tone, mark) => (stem ++ "_" ++ tone ++ "_skin_tone", toned mark emoji)
      else [])
    ++ (if name.contains '~' then [("flag_for_" ++ stem, emoji)] else [])

def named : List (String × List Char) :=
  (listed.splitOn ";").flatMap fun entry =>
    match splitBlanks entry.toList with
    | [] => []
    | emoji :: names => names.flatMap (spellings emoji)

def table : Std.HashMap String (List Char) := .ofList named

/-- Lower case for the letters that names are made of, and for the signs of the
kelvin and the angstrom. -/
def lower (c : Char) : Char :=
  let n := c.toNat
  if n == 0x212A then 'k'
  else if n == 0x212B then Char.ofNat 0xE5
  else if 0xC0 ≤ n && n ≤ 0xDE && n != 0xD7 then Char.ofNat (n + 0x20)
  else c.toLower

def find? (name : List Char) : Option (List Char) :=
  table.get? (String.ofList (name.map lower))

/-! ## Codes in a text -/

/-- A name without the word for how it is shown, and the mark the word stands for. -/
def nameAndMark (name : List Char) : List Char × List Char :=
  let without (ending : String) := name.take (name.length - ending.length)
  if "-emoji".toList.isSuffixOf name then (without "-emoji", [asPicture])
  else if "-text".toList.isSuffixOf name then (without "-text", [asText])
  else (name, [])

/-- What is shown for a name between two colons. -/
def shown (code : List Char) : List Char :=
  let (name, mark) := nameAndMark code
  match find? name with
  | some emoji => emoji ++ mark
  | none => ':' :: code ++ [':']

/-- What is shown for a text. A name is held back from its first colon on, last
character first, until a colon or a blank decides it. -/
def expandFrom : Option (List Char) → List Char → List Char
  | none, [] => []
  | some name, [] => ':' :: name.reverse
  | none, c :: rest => if c == ':' then expandFrom (some []) rest else c :: expandFrom none rest
  | some name, c :: rest =>
    if c == ':' then shown name.reverse ++ expandFrom none rest
    else if isBlank c then ':' :: name.reverse ++ c :: expandFrom none rest
    else expandFrom (some (c :: name)) rest

def expand (s : List Char) : List Char := expandFrom none s

end ConceptInventory.Emoji
