import ConceptInventory.CommandLine.Printer
import ConceptInventory.Text.Cells

/-!
# Grids

How a grid is laid out once its cells are plain text. Every column is as
wide as its widest cell or header, with one blank on either side. The head has
a heavy frame, the body a light one, with lines between its rows if asked for.
The title is centred over the whole width; where the blanks cannot be split
evenly the extra one is on the right.
-/
namespace ConceptInventory.Grid

def blanks (n : Nat) : List Char := List.replicate n ' '

def padRight (width : Nat) (s : List Char) : List Char := s ++ blanks (width - cells s)

def centre (width : Nat) (s : List Char) : List Char :=
  let free := width - cells s
  blanks (free / 2) ++ s ++ blanks (free - free / 2)

/-- The cells of a column, its header first. -/
def columnTexts (g : Grid) (i : Nat) (c : Column) : List (List Char) :=
  c.header.toList :: g.rows.map fun r => (r.getD i "").toList

def widths (g : Grid) : List Nat :=
  (g.columns.zipIdx).map fun (c, i) => ((g.columnTexts i c).map cells).foldl max 0

/-- The strokes of one horizontal line: left end, stroke, crossing, right end. -/
structure Strokes where
  left : Char
  stroke : Char
  crossing : Char
  right : Char

def top : Strokes := ⟨'┏', '━', '┳', '┓'⟩
def underHead : Strokes := ⟨'┡', '━', '╇', '┩'⟩
def between : Strokes := ⟨'├', '─', '┼', '┤'⟩
def bottom : Strokes := ⟨'└', '─', '┴', '┘'⟩

/-- Parts with a character between neighbours. -/
def joined (sep : Char) : List (List Char) → List Char
  | [] => []
  | [p] => p
  | p :: rest => p ++ sep :: joined sep rest

def rule (k : Strokes) (ws : List Nat) : List Char :=
  k.left :: joined k.crossing (ws.map fun w => List.replicate (w + 2) k.stroke) ++ [k.right]

def cell (c : Column) (width : Nat) (text : String) : List Char :=
  ' ' :: (if c.centred then centre width text.toList else padRight width text.toList) ++ [' ']

def row (edge : Char) (columns : List Column) (ws : List Nat) (texts : List String) : List Char :=
  edge :: joined edge ((columns.zip (ws.zip texts)).map fun (c, w, t) => cell c w t) ++ [edge]

def bodyLines (g : Grid) (ws : List Nat) : List (List (List Char)) :=
  g.rows.map fun r => [row '│' g.columns ws r]

/-- Rows in turn, with a line between neighbours if the grid is ruled. -/
def body (g : Grid) (ws : List Nat) : List (List Char) :=
  if g.ruled then ((g.bodyLines ws).intersperse [rule between ws]).flatten
  else (g.bodyLines ws).flatten

def totalWidth (ws : List Nat) : Nat := ws.foldr (fun w n => w + 3 + n) 1

def lines (g : Grid) : List (List Char) :=
  let ws := g.widths
  [ centre (totalWidth ws) g.title.toList, rule top ws,
    row '┃' g.columns ws (g.columns.map Column.header), rule underHead ws ]
    ++ g.body ws ++ [rule bottom ws]

def render (g : Grid) : String :=
  String.ofList (g.lines.flatMap fun l => l ++ ['\n'])

end ConceptInventory.Grid
