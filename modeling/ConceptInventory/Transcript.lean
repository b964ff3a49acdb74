import ConceptInventory.Channel
import ConceptInventory.Json.Reader
import ConceptInventory.Json.Shown
import ConceptInventory.Text.Blank

/-!
# Transcripts

A transcript holds one entry per line, a JSON object with the offset under t
and the text under text. Blank lines are skipped. The first line that is no
entry, or whose offset lies before that of the entry above, is refused with its
number; lines after it are not looked at. A transcript is replayed as one
fragment per entry and a final item at the last offset.

A text is a string of characters. Where the string of a line has half a surrogate
pair in it, the line is an entry all the same, and the text of the entry has the
replacement character in the place of each half.
-/
namespace ConceptInventory

/-! ## Lines of a file -/

/-- Cuts a text into its lines. A line ends with a line feed, with a carriage return or with
both in that order; whichever it is, the line as read ends with a line feed. No other
character ends a line, and the last line may have no end. -/
def linesOf : List Char → List (List Char)
  | [] => []
  | '\r' :: '\n' :: rest => ['\n'] :: linesOf rest
  | c :: rest =>
    if c == '\n' || c == '\r' then ['\n'] :: linesOf rest
    else
      match linesOf rest with
      | [] => [[c]]
      | line :: lines => (c :: line) :: lines

/-! ## Entries -/

structure Entry where
  offset : Nat
  text : String
deriving DecidableEq, Repr

/-- Why a line is no entry. -/
inductive EntryFault
  | notJson (e : Json.ReadError)
  | notObject (j : Json)
  | missing (field : String)
  | badOffset (j : Json)
  | badText (j : Json)

def EntryFault.message : EntryFault → String
  | .notJson e => e.message
  | .notObject j => j.noFieldsMessage
  | .missing field => Message.showText field
  | .badOffset j => "'t' must be a non-negative integer, got " ++ j.shown
  | .badText j => "'text' must be a string, got " ++ j.typeName

namespace Entry

/-- An entry from its two fields; the offset is judged before the text. -/
def ofFields (offset text : Json) : Except EntryFault Entry :=
  match offset with
  | .int (.ofNat n) =>
    match text.text? with
    | some s => .ok ⟨n, s⟩
    | none => .error (.badText text)
  | j => .error (.badOffset j)

/-- Both fields must be there before either is judged. -/
def ofJson : Json → Except EntryFault Entry
  | .obj fields =>
    match Json.fieldOf? fields "t", Json.fieldOf? fields "text" with
    | none, _ => .error (.missing "t")
    | some _, none => .error (.missing "text")
    | some offset, some text => ofFields offset text
  | j => .error (.notObject j)

def ofLine (line : String) : Except EntryFault Entry :=
  match Json.read line with
  | .error e => .error (.notJson e)
  | .ok j => ofJson j

end Entry

inductive TranscriptError
  | badEntry (line : Nat) (fault : EntryFault)
  | disorder (line offset before : Nat)

def TranscriptError.message : TranscriptError → String
  | .badEntry line fault =>
    "line " ++ toString line ++ ": invalid transcript entry: " ++ fault.message
  | .disorder line offset before =>
    "line " ++ toString line ++ ": offset " ++ toString offset ++ " is before " ++ toString before

namespace Transcript

/-- Reads the lines from a given number on; no offset may lie before the bound. -/
def entriesFrom (line bound : Nat) : List String → Except TranscriptError (List Entry)
  | [] => .ok []
  | l :: rest =>
    if isAllBlank l then entriesFrom (line + 1) bound rest
    else
      match Entry.ofLine l with
      | .error fault => .error (.badEntry line fault)
      | .ok e =>
        if e.offset < bound then .error (.disorder line e.offset bound)
        else (entriesFrom (line + 1) e.offset rest).map (e :: ·)

/-- The entries of a transcript given by its lines. -/
def entries (lines : List String) : Except TranscriptError (List Entry) := entriesFrom 1 0 lines

inductive LoadError
  | notUtf8
  | transcript (e : TranscriptError)

/-- The entries of a transcript given by the text of its file. -/
def ofText (text : String) : Except TranscriptError (List Entry) :=
  entries ((linesOf text.toList).map String.ofList)

/-- The entries of a transcript given by the bytes of its file. -/
def load (bytes : ByteArray) : Except LoadError (List Entry) :=
  match String.fromUTF8? bytes with
  | none => .error .notUtf8
  | some text =>
    match ofText text with
    | .error e => .error (.transcript e)
    | .ok es => .ok es

def lastOffset (es : List Entry) : Nat := (es.getLast?.map Entry.offset).getD 0

/-- What a replay sends. -/
def replay (es : List Entry) : List Item :=
  es.map (fun e => .fragment e.text e.offset) ++ [.finish (lastOffset es)]

end Transcript

end ConceptInventory
