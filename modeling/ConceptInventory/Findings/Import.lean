import ConceptInventory.Findings.Basic
import ConceptInventory.Json.Reader
import ConceptInventory.Json.Shown

/-!
# Importing findings

Findings are read back from their exported form. The title of the video, the
language, the list of concepts and the value and stamp of a concept may be
missing; the title may also be null, and a language that is null or otherwise
void counts as none. Of concepts with one token the first stays.
-/
namespace ConceptInventory

inductive ImportError
  | notJson (e : Json.ReadError)
  | missing (field : String)
  /-- Fields are needed of a value that has none. -/
  | noFields (j : Json)
  /-- An optional field is asked of a value that has no fields. -/
  | noLookup (j : Json)
  | notText (field : String)
  | notName (j : Json)
  | notList (j : Json)
  | unknownLanguage (j : Json)
  | emptyPath

def ImportError.message : ImportError → String
  | .notJson e => e.message
  | .missing field => Message.showText field
  | .noFields j => j.noFieldsMessage
  | .noLookup j => "'" ++ j.typeName ++ "' object has no attribute 'get'"
  | .notText field => Message.showText field ++ " must be a string"
  | .notName j => "'" ++ j.typeName ++ "' object has no attribute 'strip'"
  | .notList j => "'" ++ j.typeName ++ "' object is not iterable"
  | .unknownLanguage j => Language.unknownMessageOf j.shown
  | .emptyPath => CategoryPath.emptyMessage

abbrev Imported (α : Type) := Except ImportError α

namespace Json

def requiredField (j : Json) (name : String) : Imported Json :=
  match j with
  | .obj fields =>
    match fieldOf? fields name with
    | some v => .ok v
    | none => .error (.missing name)
  | j => .error (.noFields j)

def optionalField (j : Json) (name : String) : Imported (Option Json) :=
  match j with
  | .obj fields => .ok (fieldOf? fields name)
  | j => .error (.noLookup j)

def asText (field : String) (j : Json) : Imported String :=
  match j.text? with
  | some s => .ok s
  | none => .error (.notText field)

def requiredText (j : Json) (name : String) : Imported String := do
  (← j.requiredField name).asText name

/-- An optional text, empty where it is missing. -/
def optionalText (j : Json) (name : String) : Imported String := do
  match ← j.optionalField name with
  | none => return ""
  | some v => v.asText name

/-- Null, false, zero and whatever is empty. -/
def isVoid : Json → Bool
  | .null => true
  | .bool b => !b
  | .int i => i == 0
  | .real x => x == 0
  | .str s => s.isEmpty
  | .brokenStr codes => codes.isEmpty
  | .arr items => items.isEmpty
  | .obj fields => fields.isEmpty

/-- What a value offers when it is gone through: items, characters or names. -/
def elements : Json → Imported (List Json)
  | .arr items => .ok items
  | .str s => .ok (s.toList.map fun c => .str (String.singleton c))
  | .brokenStr codes => .ok (codes.map fun n => ofCodes [n])
  | .obj fields => .ok (fields.map fun f => .str f.1)
  | j => .error (.notList j)

mutual

/-- How deep objects are nested. -/
def depth : Json → Nat
  | .obj fields => depthOfFields fields + 1
  | _ => 1

def depthOfFields : List (String × Json) → Nat
  | [] => 0
  | (_, j) :: rest => max j.depth (depthOfFields rest)

end

end Json

/-- The names of nested objects, at most as many as the fuel. -/
def pathNames : Nat → Json → Imported (List String)
  | _, .null => .ok []
  | 0, _ => .ok []
  | fuel + 1, j => do
    let name ← j.requiredText "name"
    let below ← pathNames fuel ((← j.optionalField "child").getD .null)
    return name :: below

def CategoryPath.ofJson (j : Json) : Imported CategoryPath := do
  match CategoryPath.ofNames? (← pathNames j.depth j) with
  | some p => return p
  | none => throw .emptyPath

def Concept.ofJson (j : Json) : Imported Concept := do
  let token ← j.requiredText "token"
  let value ← j.optionalText "value"
  let stamp ← j.optionalText "timeStamp"
  return ⟨token, value, stamp, ← CategoryPath.ofJson (← j.requiredField "classification")⟩

def Video.ofJson (j : Json) : Imported Video := do
  let url ← j.requiredText "url"
  match ← j.optionalField "title" with
  | some .null => return ⟨url, none⟩
  | _ => return ⟨url, some (← j.optionalText "title")⟩

def Language.ofJson (j : Json) : Imported (Option Language) :=
  if j.isVoid then .ok none
  else
    match j.text? with
    | none => .error (.notName j)
    | some s =>
      match Language.ofName? s with
      | some l => .ok (some l)
      | none => .error (.unknownLanguage j)

namespace Findings

def ofJson (j : Json) : Imported Findings := do
  let language ← j.optionalField "language"
  let video ← Video.ofJson (← j.requiredField "video")
  let language ← Language.ofJson (language.getD .null)
  let listed ← j.optionalField "knowledgeComponents"
  let concepts ← (← (listed.getD (.arr [])).elements).mapM Concept.ofJson
  return ⟨video, language, .ofList concepts⟩

def read (text : String) : Imported Findings :=
  match Json.read text with
  | .error e => .error (.notJson e)
  | .ok j => ofJson j

end Findings

end ConceptInventory
