import ConceptInventory.Console.Emoji

/-!
# Console markup

Text for the console may hold tags in brackets that style it. What is printed
without colours is the text between the tags. A tag opens with a bracket and a
lower-case letter, a hash, a slash or an at sign, and holds no other opening
bracket; a slash makes it a closing tag, which must have an open tag to close.
Backslashes before a bracket that would start a tag are halved, and an odd one
keeps the bracket as text. Emoji take the place of their codes. A tag may be closed
under another spelling of its style; which spellings are one style, and which
parameters of a handler can be read, is left to what knows the styles.
-/
namespace ConceptInventory.Markup

/-- What is known of styles. -/
structure Styles where
  /-- One spelling for all definitions of a style. -/
  normal : String → String
  /-- What is said of parameters of a handler that cannot be read. -/
  complaint? : String → Option String

/-- Styles of which nothing is known but their names, case and blanks around them apart. -/
def Styles.named : Styles := ⟨fun s => (trimBlanks s).toLower, fun _ => none⟩

inductive Error
  | nothingToClose (position : Nat)
  | unmatched (tag : List Char) (position : Nat)
  | badParameters (complaint : String)
deriving DecidableEq, Repr

def Error.message : Error → String
  | .nothingToClose position =>
    "closing tag '[/]' at position " ++ toString position ++ " has nothing to close"
  | .unmatched tag position =>
    "closing tag '[" ++ String.ofList tag ++ "]' at position " ++ toString position
      ++ " doesn't match any open tag"
  | .badParameters complaint => complaint

def startsTag (c : Char) : Bool :=
  ('a' ≤ c && c ≤ 'z') || c == '#' || c == '/' || c == '@'

/-- The rest of a tag up to its closing bracket, and what follows. -/
def tagBody : List Char → Option (List Char × List Char)
  | [] => none
  | ']' :: rest => some ([], rest)
  | '[' :: _ => none
  | c :: rest => (tagBody rest).map fun (body, rest) => (c :: body, rest)

/-- A tag at the front, without its brackets, and what follows it. -/
def tag? : List Char → Option (List Char × List Char)
  | '[' :: c :: rest =>
    if startsTag c then (tagBody rest).map fun (body, rest) => (c :: body, rest) else none
  | _ => none

/-- A tag at the front behind any number of backslashes. -/
def slashedTag? (s : List Char) : Option (Nat × List Char × List Char) :=
  let slashes := s.takeWhile (· == '\\')
  (tag? (s.drop slashes.length)).map fun (tag, rest) => (slashes.length, tag, rest)

/-! ## Tags that are open -/

/-- A tag: its name, and what follows an equals sign. -/
structure Tag where
  name : List Char
  parameters : List Char
deriving DecidableEq, Repr

def Tag.ofText (text : List Char) : Tag :=
  let name := text.takeWhile (· != '=')
  ⟨name, (text.drop name.length).drop 1⟩

/-- What is wrong with a tag when it is closed. Of handlers the parameters are read. -/
def Tag.complaint? (styles : Styles) (t : Tag) : Option String :=
  if t.name.head? == some '@' && !t.parameters.isEmpty then
    styles.complaint? (String.ofList t.parameters)
  else none

/-- The innermost open tag of a name, and the open tags without it. -/
def close (name : List Char) : List Tag → Option (Tag × List Tag)
  | [] => none
  | t :: rest =>
    if t.name == name then some (t, rest)
    else (close name rest).map fun (closed, rest) => (closed, t :: rest)

/-- The open tags without the one that a closing tag closes. -/
def closed (styles : Styles) (opened : List Tag) (position : Nat) (text style : List Char) :
    Except Error (List Tag) :=
  let style := trimBlanks (String.ofList style)
  let found :=
    if style.isEmpty then opened.head?.map fun t => (t, opened.tail)
    else close (styles.normal style).toList opened
  match found with
  | none => .error (if style.isEmpty then .nothingToClose position else .unmatched text position)
  | some (tag, rest) =>
    match tag.complaint? styles with
    | none => .ok rest
    | some complaint => .error (.badParameters complaint)

/-- The open tags after a tag at a position. -/
def follow (styles : Styles) (opened : List Tag) (position : Nat) (text : List Char) :
    Except Error (List Tag) :=
  let tag := Tag.ofText text
  match tag.name with
  | '/' :: style => closed styles opened position text style
  | name => .ok (⟨(styles.normal (String.ofList name)).toList, tag.parameters⟩ :: opened)

/-! ## Text without tags -/

/-- A stretch of a marked-up text. -/
inductive Part
  /-- Text as written. -/
  | written (text : List Char)
  /-- Backslashes before a tag, or a tag that they keep as text. -/
  | kept (text : List Char)
  /-- A tag, and where its bracket stands. -/
  | tag (position : Nat) (text : List Char)

/-- A character of text in front of other parts. -/
def Part.cons (c : Char) : List Part → List Part
  | .written text :: rest => .written (c :: text) :: rest
  | rest => .written [c] :: rest

/-- The parts of a marked-up text from a position on; the fuel is at least its length. -/
def partsFrom : Nat → Nat → List Char → List Part
  | 0, _, _ => []
  | _, _, [] => []
  | fuel + 1, position, c :: rest =>
    match slashedTag? (c :: rest) with
    | some (slashes, tag, after) =>
      let slashesKept := List.replicate (slashes / 2) '\\'
      let part :=
        if slashes % 2 == 1 then Part.kept ('[' :: tag ++ [']'])
        else Part.tag (position + slashes) tag
      .kept slashesKept :: part :: partsFrom fuel (position + slashes + tag.length + 2) after
    | none =>
      match c, rest with
      | '\\', '[' :: rest => Part.cons '[' (partsFrom fuel (position + 2) rest)
      | c, rest => Part.cons c (partsFrom fuel (position + 1) rest)

/-- The text of parts, with emoji in the place of their codes. A code does not
reach from one part into another. -/
def textFrom (styles : Styles) (opened : List Tag) : List Part → Except Error (List Char)
  | [] => .ok []
  | .written text :: rest | .kept text :: rest =>
    (textFrom styles opened rest).map fun t => Emoji.expand text ++ t
  | .tag position text :: rest =>
    match follow styles opened position text with
    | .error e => .error e
    | .ok opened => textFrom styles opened rest

/-- The text a console prints for a marked-up text. -/
def plain (styles : Styles) (s : String) : Except Error (List Char) :=
  textFrom styles [] (partsFrom s.length 0 s.toList)

/-- Marks up a text so that no part of it is a tag. -/
def escapeFrom : Nat → List Char → List Char
  | 0, s => s
  | _, [] => []
  | fuel + 1, c :: rest =>
    match slashedTag? (c :: rest) with
    | some (slashes, tag, after) =>
      List.replicate (2 * slashes + 1) '\\' ++ '[' :: tag ++ ']' :: escapeFrom fuel after
    | none => c :: escapeFrom fuel rest

def escape (s : String) : String := String.ofList (escapeFrom s.length s.toList)

end ConceptInventory.Markup
