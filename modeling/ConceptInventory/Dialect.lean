import ConceptInventory.Grammars.CFamily
import ConceptInventory.Grammars.Python
import ConceptInventory.Language
import ConceptInventory.Taxonomy.CFamily
import ConceptInventory.Taxonomy.Python

/-!
# Dialects

A dialect is a grammar with the taxonomy of its kinds: it reads a text into
tokens and classifies each of them among its neighbours. What later stages keep
of a classified token are texts only, so they need not know the dialect.
-/
namespace ConceptInventory

/-- A classified token as texts: its literal, what a viewer reads, its path. -/
structure Sighting where
  token : String
  value : String
  path : CategoryPath
deriving DecidableEq, Repr

/-- A token of a text and how it was classified, if it was. -/
structure Reading where
  token : String
  sighting : Option Sighting
deriving DecidableEq, Repr

structure Dialect (κ : Type) where
  grammar : Grammar κ
  classify : Window κ → Option (Classification κ)

namespace Dialect

variable {κ : Type} [TokenKind κ]

def sightingOf (c : Classification κ) : Sighting := ⟨c.token.literal, c.token.display, c.path⟩

/-- The classification of each token among its neighbours. -/
def classifyAll (d : Dialect κ) (tokens : List (Token κ)) : List (Option (Classification κ)) :=
  (Window.each tokens).map d.classify

/-- The tokens with each classified one replaced by what it was resolved to. -/
def resolveAll (d : Dialect κ) (tokens : List (Token κ)) : List (Token κ) :=
  (tokens.zip (d.classifyAll tokens)).map fun e => (e.2.map Classification.token).getD e.1

/-- What is classified in a text, in text order. -/
def sightings (d : Dialect κ) (text : String) : List Sighting :=
  (d.classifyAll (d.grammar.tokenize text)).filterMap fun c => c.map sightingOf

/-- Every token of a text, classified or not, in text order. -/
def readings (d : Dialect κ) (text : String) : List Reading :=
  let tokens := d.grammar.tokenize text
  (tokens.zip (d.classifyAll tokens)).map fun e => ⟨e.1.literal, e.2.map sightingOf⟩

end Dialect

def CFamily.dialect : Dialect CFamily.Kind := ⟨CFamily.grammar, CFamily.classify⟩

def Python.dialect : Dialect Python.Kind := ⟨Python.grammar, Python.classify⟩

namespace Language

def sightings (l : Language) (text : String) : List Sighting :=
  match l.family with
  | .cFamily => CFamily.dialect.sightings text
  | .python => Python.dialect.sightings text

def readings (l : Language) (text : String) : List Reading :=
  match l.family with
  | .cFamily => CFamily.dialect.readings text
  | .python => Python.dialect.readings text

end Language

end ConceptInventory
