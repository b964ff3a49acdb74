import ConceptInventory.Console.Grid
import ConceptInventory.Console.Markup
import ConceptInventory.Text.Cells

/-!
# The console

What the console makes of a text: tags are dropped, bells, backspaces, vertical
tabs, form feeds and carriage returns vanish, and a tab moves on to the next
multiple of eight cells. Lines are as long as they are.
-/
namespace ConceptInventory.Console

/-- Controls that would move the cursor. -/
def vanishes (c : Char) : Bool :=
  c.toNat == 0x07 || c.toNat == 0x08 || c.toNat == 0x0B || c.toNat == 0x0C || c.toNat == 0x0D

/-- Blanks in place of tabs, counting cells from the start of the line. -/
def expandTabs : Nat → List Char → List Char
  | _, [] => []
  | column, c :: rest =>
    if c == '\t' then List.replicate (8 - column % 8) ' ' ++ expandTabs (column + (8 - column % 8)) rest
    else if c == '\n' then c :: expandTabs 0 rest
    else c :: expandTabs (column + charCells c) rest

variable (styles : Markup.Styles)

/-- The text between the tags, as it goes to the screen. -/
def shown (marked : String) : Except String (List Char) :=
  match Markup.plain styles marked with
  | .error e => .error e.message
  | .ok t => .ok (expandTabs 0 (t.filter fun c => !vanishes c))

/-- A printed text ends with a line break. -/
def print (marked : String) : Except String String :=
  (shown styles marked).map fun t => String.ofList (t ++ ['\n'])

/-- A grid of marked-up cells as printed. -/
def printGrid (g : Grid) : Except String String := do
  let title ← shown styles g.title
  let rows ← g.rows.mapM fun r => r.mapM fun c => do return String.ofList (← shown styles c)
  return { g with title := String.ofList title, rows := rows }.render

def printer : Printer := ⟨print styles, printGrid styles, Markup.escape⟩

end ConceptInventory.Console
