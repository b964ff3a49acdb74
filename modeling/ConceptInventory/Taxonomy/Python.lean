import ConceptInventory.Kinds.Python
import ConceptInventory.Taxonomy.Treatment

/-!
# The Python taxonomy

No kind is ambiguous: each is filed under fixed categories or skipped, whatever
its neighbours. Keywords that make an expression or a declaration of their own
are filed under a category named after them.
-/
namespace ConceptInventory.Python

open Category

def treatment : Kind → Treatment Empty
  | .kwFor | .kwWhile => .filed iteration
  | .kwBreak | .kwContinue | .kwReturn | .kwPass => .filed jump
  | .kwMatch | .kwCase | .kwIf | .kwElif | .kwElse => .filed condition
  | .kwTry | .kwExcept | .kwFinally => .filed tryBlock
  | .kwRaise => .filed throwStatement
  | .kwImport | .kwFrom => .filed [compilationUnit]
  | .kwInt => .filed (arithmeticTypes ++ ["Integer Number"])
  | .kwFloat => .filed (arithmeticTypes ++ ["Floating Point Number"])
  | .kwComplex => .filed (arithmeticTypes ++ ["Complex Number"])
  | .kwBool | .kwTrue | .kwFalse => .filed (arithmeticTypes ++ ["Boolean"])
  | .kwList => .filed (dataTypes ++ ["List"])
  | .kwTuple => .filed (dataTypes ++ ["Tuple"])
  | .kwDict => .filed (dataTypes ++ ["Dict"])
  | .kwSet => .filed (dataTypes ++ ["Set"])
  | .kwBytes => .filed (dataTypes ++ ["Bytes"])
  | .kwClass => .filed (dataTypes ++ ["ClassType"])
  | .kwStr => .filed (dataTypes ++ ["StringType"])
  | .kwNone => .filed (dataTypes ++ ["NoneType"])
  | .kwDef | .decorator | .finalMark | .overloadMark => .filed declarators
  | .kwGlobal => .filed [declaration, "Global Declaration"]
  | .kwAsync => .filed [declaration, "Async Declaration"]
  | .addition | .subtraction | .multiplication | .division | .floorDivision | .modulo
  | .exponentiation => .filed arithmetic
  | .addAssignment | .subAssignment | .multAssignment | .divAssignment | .floorDivAssignment
  | .modAssignment | .expAssignment | .assignment | .assignmentExpression => .filed assignment
  | .bitwiseAnd | .bitwiseAndAssignment | .bitwiseOr | .bitwiseOrAssignment | .bitwiseXor
  | .bitwiseXorAssignment | .bitwiseNot | .bitwiseLeftShift | .bitwiseLeftShiftAssignment
  | .bitwiseRightShift | .bitwiseRightShiftAssignment => .filed bitwise
  | .functionCall => .filed [expression]
  | .kwAnd | .kwOr | .kwNot => .filed logical
  | .greater | .greaterOrEquals | .less | .lessOrEquals | .equal | .notEquals =>
    .filed comparison
  | .memberAccess => .filed memberAccess
  | .kwIs | .kwIsNot => .filed [expression, "Identity Operator"]
  | .kwIn | .kwNotIn => .filed [expression, "Membership Operator"]
  | .kwYield => .filed [expression, "Yield Expression"]
  | .kwAwait => .filed [expression, "Await Expression"]
  | .kwLambda => .filed [expression, "Lambda Expression"]
  | .identifier | .arrow | .colon | .comma | .semicolon | .openParen | .closeParen
  | .openBracket | .closeBracket | .openBrace | .closeBrace | .unrecognized => .skipped

/-- Classifies the token under a window, none if it is skipped. -/
def classify (w : Window Kind) : Option (Classification Kind) :=
  w.current.bind fun t =>
    match treatment t.kind with
    | .filed outer => some (.file t outer)
    | .skipped => none

end ConceptInventory.Python
