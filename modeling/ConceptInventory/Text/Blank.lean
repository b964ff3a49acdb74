/-!
# Blank characters

Blanks are trimmed from both ends of a name or label before it is looked up,
and a line of blanks only is skipped. They are the ASCII spaces and line ends,
the four information separators, and the spaces of Unicode; zero-width marks
are none of them.
-/
namespace ConceptInventory

def isBlank (c : Char) : Bool :=
  let n := c.toNat
  (0x09 ≤ n && n ≤ 0x0D) || (0x1C ≤ n && n ≤ 0x20) || n == 0x85 || n == 0xA0 || n == 0x1680
    || (0x2000 ≤ n && n ≤ 0x200A) || n == 0x2028 || n == 0x2029 || n == 0x202F || n == 0x205F
    || n == 0x3000

/-- Drops characters of a class at both ends. -/
def trim (drops : Char → Bool) (s : String) : String :=
  String.ofList ((s.toList.dropWhile drops).reverse.dropWhile drops).reverse

/-- Drops the blanks at both ends. -/
def trimBlanks (s : String) : String := trim isBlank s

/-- The words between blanks. -/
def splitBlanks (s : List Char) : List (List Char) :=
  s.foldr (fun c ws =>
    if isBlank c then [] :: ws
    else match ws with
      | [] => [[c]]
      | w :: rest => (c :: w) :: rest) [[]] |>.filter fun w => !w.isEmpty

def isAllBlank (s : String) : Bool := s.toList.all isBlank

end ConceptInventory
