import ConceptInventory.Findings.Basic
import ConceptInventory.Json.Writer

/-!
# Exporting findings

Findings are written as a JSON object: the video, the language in lower case or
null, and the concepts in order. A category path is written as nested objects,
each with the path below it as its child.
-/
namespace ConceptInventory

/-- Nested objects for a path given by its names. -/
def pathJson : List String → Json
  | [] => .null
  | name :: below => .obj [("name", .str name), ("child", pathJson below)]

def CategoryPath.toJson (p : CategoryPath) : Json := pathJson p.names

def Concept.toJson (c : Concept) : Json :=
  .obj [("token", .str c.token), ("value", .str c.value), ("timeStamp", .str c.stamp),
    ("classification", c.path.toJson)]

def Inventory.toJson (i : Inventory) : Json := .arr (i.concepts.map Concept.toJson)

/-- A text or null. -/
def textOrNull (t : Option String) : Json := (t.map Json.str).getD .null

def Video.toJson (v : Video) : Json := .obj [("title", textOrNull v.title), ("url", .str v.url)]

namespace Findings

def toJson (f : Findings) : Json :=
  .obj [("video", f.video.toJson),
    ("language", textOrNull (f.language.map Language.exportName)),
    ("knowledgeComponents", f.inventory.toJson)]

/-- The written form, so many blanks per level, or on one line. -/
def render (f : Findings) (indent : Option Nat) : String := f.toJson.render ⟨indent, false⟩

/-- Blanks per level where nothing else is asked for. -/
def defaultIndent : Option Nat := some 2

end Findings

end ConceptInventory
