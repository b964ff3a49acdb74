import ConceptInventory.Lexis.Token

/-!
# Kinds of Python

Written values share the kind of their type: a number with a fraction and the
word float are one kind, a bracketed list and the word list are another. A call
is scanned as a whole into one kind.
-/
namespace ConceptInventory.Python

inductive Kind
  | kwFor | kwWhile
  | kwBreak | kwContinue | kwReturn | kwPass
  | kwMatch | kwCase | kwIf | kwElif | kwElse
  | kwTry | kwExcept | kwFinally | kwRaise
  | kwImport | kwFrom
  | kwFloat | kwInt | kwComplex | kwTrue | kwFalse | kwBool | kwList | kwTuple | kwDict | kwSet
  | kwBytes | kwClass | kwStr | kwNone
  | kwDef | decorator | finalMark | overloadMark
  | kwGlobal | kwAsync
  | addition | subtraction | multiplication | division | floorDivision | modulo | exponentiation
  | addAssignment | subAssignment | multAssignment | divAssignment | floorDivAssignment
  | modAssignment | expAssignment | assignment | assignmentExpression
  | bitwiseAnd | bitwiseAndAssignment | bitwiseOr | bitwiseOrAssignment | bitwiseXor
  | bitwiseXorAssignment | bitwiseNot | bitwiseLeftShift | bitwiseLeftShiftAssignment
  | bitwiseRightShift | bitwiseRightShiftAssignment
  | functionCall
  | kwAnd | kwOr | kwNot
  | greater | greaterOrEquals | less | lessOrEquals | equal | notEquals
  | memberAccess
  | kwIs | kwIsNot | kwIn | kwNotIn
  | kwYield | kwAwait | kwLambda
  | identifier
  | arrow | colon | comma | semicolon | openParen | closeParen | openBracket | closeBracket
  | openBrace | closeBrace | unrecognized
deriving DecidableEq, Repr

namespace Kind

/-- The kinds in the order of their declaration. -/
def all : List Kind := [
  .kwFor, .kwWhile, .kwBreak, .kwContinue, .kwReturn, .kwPass, .kwMatch, .kwCase, .kwIf, .kwElif,
  .kwElse, .kwTry, .kwExcept, .kwFinally, .kwRaise, .kwImport, .kwFrom, .kwFloat, .kwInt,
  .kwComplex, .kwTrue, .kwFalse, .kwBool, .kwList, .kwTuple, .kwDict, .kwSet, .kwBytes, .kwClass,
  .kwStr, .kwNone, .kwDef, .decorator, .finalMark, .overloadMark, .kwGlobal, .kwAsync, .addition,
  .subtraction, .multiplication, .division, .floorDivision, .modulo, .exponentiation,
  .addAssignment, .subAssignment, .multAssignment, .divAssignment, .floorDivAssignment,
  .modAssignment, .expAssignment, .assignment, .assignmentExpression, .bitwiseAnd,
  .bitwiseAndAssignment, .bitwiseOr, .bitwiseOrAssignment, .bitwiseXor, .bitwiseXorAssignment,
  .bitwiseNot, .bitwiseLeftShift, .bitwiseLeftShiftAssignment, .bitwiseRightShift,
  .bitwiseRightShiftAssignment, .functionCall, .kwAnd, .kwOr, .kwNot, .greater, .greaterOrEquals,
  .less, .lessOrEquals, .equal, .notEquals, .memberAccess, .kwIs, .kwIsNot, .kwIn, .kwNotIn,
  .kwYield, .kwAwait, .kwLambda, .identifier, .arrow, .colon, .comma, .semicolon, .openParen,
  .closeParen, .openBracket, .closeBracket, .openBrace, .closeBrace, .unrecognized]

def name : Kind → String
  | .kwFor => "For"
  | .kwWhile => "While"
  | .kwBreak => "Break"
  | .kwContinue => "Continue"
  | .kwReturn => "Return"
  | .kwPass => "Pass"
  | .kwMatch => "Match"
  | .kwCase => "Case"
  | .kwIf => "If"
  | .kwElif => "Elif"
  | .kwElse => "Else"
  | .kwTry => "Try"
  | .kwExcept => "Except"
  | .kwFinally => "Finally"
  | .kwRaise => "Raise"
  | .kwImport => "Import"
  | .kwFrom => "From"
  | .kwFloat => "Float"
  | .kwInt => "Int"
  | .kwComplex => "Complex"
  | .kwTrue => "True"
  | .kwFalse => "False"
  | .kwBool => "Bool"
  | .kwList => "List"
  | .kwTuple => "Tuple"
  | .kwDict => "Dict"
  | .kwSet => "Set"
  | .kwBytes => "Bytes"
  | .kwClass => "Class"
  | .kwStr => "String"
  | .kwNone => "None"
  | .kwDef => "FunctionDefinition"
  | .decorator => "Decorator"
  | .finalMark => "Final"
  | .overloadMark => "Overload"
  | .kwGlobal => "Global"
  | .kwAsync => "Async"
  | .addition => "Addition"
  | .subtraction => "Subtraction"
  | .multiplication => "Multiplication"
  | .division => "Division"
  | .floorDivision => "FloorDivision"
  | .modulo => "Modulo"
  | .exponentiation => "Exponentiation"
  | .addAssignment => "AddAssignment"
  | .subAssignment => "SubAssignment"
  | .multAssignment => "MultAssignment"
  | .divAssignment => "DivAssignment"
  | .floorDivAssignment => "FloorDivAssignment"
  | .modAssignment => "ModAssignment"
  | .expAssignment => "ExpAssignment"
  | .assignment => "Assignment"
  | .assignmentExpression => "AssignmentExpression"
  | .bitwiseAnd => "BitwiseAnd"
  | .bitwiseAndAssignment => "BitwiseAndAssignment"
  | .bitwiseOr => "BitwiseOr"
  | .bitwiseOrAssignment => "BitwiseOrAssignment"
  | .bitwiseXor => "BitwiseXor"
  | .bitwiseXorAssignment => "BitwiseXorAssignment"
  | .bitwiseNot => "BitwiseNot"
  | .bitwiseLeftShift => "BitwiseLeftShift"
  | .bitwiseLeftShiftAssignment => "BitwiseLeftShiftAssignment"
  | .bitwiseRightShift => "BitwiseRightShift"
  | .bitwiseRightShiftAssignment => "BitwiseRightShiftAssignment"
  | .functionCall => "Function"
  | .kwAnd => "LogicalAnd"
  | .kwOr => "LogicalOr"
  | .kwNot => "LogicalNot"
  | .greater => "Greater"
  | .greaterOrEquals => "GreaterOrEquals"
  | .less => "Less"
  | .lessOrEquals => "LessOrEquals"
  | .equal => "Equal"
  | .notEquals => "NotEquals"
  | .memberAccess => "MemberAccess"
  | .kwIs => "Is"
  | .kwIsNot => "IsNot"
  | .kwIn => "In"
  | .kwNotIn => "NotIn"
  | .kwYield => "Yield"
  | .kwAwait => "Await"
  | .kwLambda => "Lambda"
  | .identifier => "Identifier"
  | .arrow => "Arrow"
  | .colon => "Colon"
  | .comma => "Comma"
  | .semicolon => "Semicolon"
  | .openParen => "OpenParen"
  | .closeParen => "CloseParen"
  | .openBracket => "OpenBracket"
  | .closeBracket => "CloseBracket"
  | .openBrace => "OpenBrace"
  | .closeBrace => "CloseBrace"
  | .unrecognized => "Unrecognized"

instance : TokenKind Kind := ⟨all, name, "PyKind"⟩

end Kind

end ConceptInventory.Python
