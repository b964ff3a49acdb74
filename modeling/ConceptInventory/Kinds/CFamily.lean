import ConceptInventory.Lexis.Token

/-!
# Kinds of the C family

C, C++ and Java share one set of token kinds; keywords of one language simply
do not occur in sources of another. Constructors that start with kw are spelt
with letters. Some kinds are never scanned: an ambiguous token is resolved to
them once its neighbours are known, the asterisk to a multiplication or a
pointer, the opening parenthesis to a function declarator or a call.
-/
namespace ConceptInventory.CFamily

inductive Kind
  | directive
  | kwFor | kwWhile | kwDoWhile
  | kwSwitch | kwCase | kwDefault | kwIf | kwElseIf | kwElse
  | kwBreak | kwContinue | kwGoto | kwReturn
  | kwUnsigned | kwSigned | kwChar | kwInt | kwShort | kwShortInt | kwLong | kwLongInt
  | kwLongLong | kwLongLongInt | kwFloat | kwDouble | kwLongDouble | kwBool | kwString
  | kwEnum | kwStruct | kwUnion | kwClass | kwTemplate | kwVoid
  | kwAuto | kwExtern | kwRegister | kwStatic | kwThreadLocal | kwTypedef | kwDecltype
  | kwAtomic | kwConst | kwRestrict | kwVolatile | kwMutable
  | kwPublic | kwProtected | kwPrivate
  | plus | minus | asterisk | multiplication | pointer | divide | modulo
  | addAssignment | subAssignment | multAssignment | divAssignment | modAssignment | assignment
  | ampersand | bitwiseAnd | reference | bitwiseOr | bitwiseXor | bitwiseNot | leftOperator
  | leftShift | leftShiftAssignment | rightOperator | rightShift | rightShiftAssignment
  | bitwiseAndAssignment | bitwiseOrAssignment | bitwiseXorAssignment | unsignedRightShift
  | logicalAnd | logicalOr | logicalNot
  | kwSizeOf | kwTypeCast | questionMark
  | greater | greaterOrEquals | less | lessOrEquals | equals | notEquals | threeWayComparison
  | dot | arrow
  | increment | prefixIncrement | postfixIncrement | decrement | prefixDecrement
  | postfixDecrement
  | kwNew | kwDelete
  | scopeResolution
  | kwTrue | kwFalse | kwNull
  | kwUsing | kwNamespace
  | kwImport | kwPackage | atSign | kwInterface | kwAbstract | kwFinal | kwNative | kwSynchronized
  | kwTransient | kwStrictFp | kwAssert | kwTry | kwCatch | kwFinally | kwThrows | kwThrow
  | kwSuper | kwThis | kwExtends | kwImplements | kwVar
  | functionDeclarator | functionCall | arrayDeclarator
  | identifier | number | stringLiteral
  | semicolon | comma | colon | openBrace | closeBrace | openParen | closeParen | openBracket
  | closeBracket | lineBreak | unrecognized
deriving DecidableEq, Repr

namespace Kind

/-- The kinds in the order of their declaration. -/
def all : List Kind := [
  .directive, .kwFor, .kwWhile, .kwDoWhile, .kwSwitch, .kwCase, .kwDefault, .kwIf, .kwElseIf,
  .kwElse, .kwBreak, .kwContinue, .kwGoto, .kwReturn, .kwUnsigned, .kwSigned, .kwChar, .kwInt,
  .kwShort, .kwShortInt, .kwLong, .kwLongInt, .kwLongLong, .kwLongLongInt, .kwFloat, .kwDouble,
  .kwLongDouble, .kwBool, .kwString, .kwEnum, .kwStruct, .kwUnion, .kwClass, .kwTemplate, .kwVoid,
  .kwAuto, .kwExtern, .kwRegister, .kwStatic, .kwThreadLocal, .kwTypedef, .kwDecltype, .kwAtomic,
  .kwConst, .kwRestrict, .kwVolatile, .kwMutable, .kwPublic, .kwProtected, .kwPrivate, .plus,
  .minus, .asterisk, .multiplication, .pointer, .divide, .modulo, .addAssignment, .subAssignment,
  .multAssignment, .divAssignment, .modAssignment, .assignment, .ampersand, .bitwiseAnd,
  .reference, .bitwiseOr, .bitwiseXor, .bitwiseNot, .leftOperator, .leftShift,
  .leftShiftAssignment, .rightOperator, .rightShift, .rightShiftAssignment, .bitwiseAndAssignment,
  .bitwiseOrAssignment, .bitwiseXorAssignment, .unsignedRightShift, .logicalAnd, .logicalOr,
  .logicalNot, .kwSizeOf, .kwTypeCast, .questionMark, .greater, .greaterOrEquals, .less,
  .lessOrEquals, .equals, .notEquals, .threeWayComparison, .dot, .arrow, .increment,
  .prefixIncrement, .postfixIncrement, .decrement, .prefixDecrement, .postfixDecrement, .kwNew,
  .kwDelete, .scopeResolution, .kwTrue, .kwFalse, .kwNull, .kwUsing, .kwNamespace, .kwImport,
  .kwPackage, .atSign, .kwInterface, .kwAbstract, .kwFinal, .kwNative, .kwSynchronized,
  .kwTransient, .kwStrictFp, .kwAssert, .kwTry, .kwCatch, .kwFinally, .kwThrows, .kwThrow,
  .kwSuper, .kwThis, .kwExtends, .kwImplements, .kwVar, .functionDeclarator, .functionCall,
  .arrayDeclarator, .identifier, .number, .stringLiteral, .semicolon, .comma, .colon, .openBrace,
  .closeBrace, .openParen, .closeParen, .openBracket, .closeBracket, .lineBreak, .unrecognized]

def name : Kind → String
  | .directive => "Preprocessor"
  | .kwFor => "For"
  | .kwWhile => "While"
  | .kwDoWhile => "DoWhile"
  | .kwSwitch => "Switch"
  | .kwCase => "Case"
  | .kwDefault => "Default"
  | .kwIf => "If"
  | .kwElseIf => "ElseIf"
  | .kwElse => "Else"
  | .kwBreak => "Break"
  | .kwContinue => "Continue"
  | .kwGoto => "Goto"
  | .kwReturn => "Return"
  | .kwUnsigned => "Unsigned"
  | .kwSigned => "Signed"
  | .kwChar => "Char"
  | .kwInt => "Int"
  | .kwShort => "Short"
  | .kwShortInt => "ShortInt"
  | .kwLong => "Long"
  | .kwLongInt => "LongInt"
  | .kwLongLong => "LongLong"
  | .kwLongLongInt => "LongLongInt"
  | .kwFloat => "Float"
  | .kwDouble => "Double"
  | .kwLongDouble => "LongDouble"
  | .kwBool => "Bool"
  | .kwString => "String"
  | .kwEnum => "Enum"
  | .kwStruct => "Struct"
  | .kwUnion => "Union"
  | .kwClass => "Class"
  | .kwTemplate => "Template"
  | .kwVoid => "Void"
  | .kwAuto => "Auto"
  | .kwExtern => "Extern"
  | .kwRegister => "Register"
  | .kwStatic => "Static"
  | .kwThreadLocal => "ThreadLocal"
  | .kwTypedef => "Typedef"
  | .kwDecltype => "Decltype"
  | .kwAtomic => "Atomic"
  | .kwConst => "Const"
  | .kwRestrict => "Restrict"
  | .kwVolatile => "Volatile"
  | .kwMutable => "Mutable"
  | .kwPublic => "Public"
  | .kwProtected => "Protected"
  | .kwPrivate => "Private"
  | .plus => "Plus"
  | .minus => "Minus"
  | .asterisk => "Asterisk"
  | .multiplication => "Multiplication"
  | .pointer => "Pointer"
  | .divide => "Divide"
  | .modulo => "Modulo"
  | .addAssignment => "AddAssignment"
  | .subAssignment => "SubAssignment"
  | .multAssignment => "MultAssignment"
  | .divAssignment => "DivAssignment"
  | .modAssignment => "ModAssignment"
  | .assignment => "Assignment"
  | .ampersand => "Ampersand"
  | .bitwiseAnd => "BitwiseAnd"
  | .reference => "Reference"
  | .bitwiseOr => "BitwiseOr"
  | .bitwiseXor => "BitwiseXor"
  | .bitwiseNot => "BitwiseNot"
  | .leftOperator => "LeftOperator"
  | .leftShift => "LeftShift"
  | .leftShiftAssignment => "LeftShiftAssignment"
  | .rightOperator => "RightOperator"
  | .rightShift => "RightShift"
  | .rightShiftAssignment => "RightShiftAssignment"
  | .bitwiseAndAssignment => "BitwiseAndAssignment"
  | .bitwiseOrAssignment => "BitwiseOrAssignment"
  | .bitwiseXorAssignment => "BitwiseXorAssignment"
  | .unsignedRightShift => "UnsignedRightShiftOperator"
  | .logicalAnd => "And"
  | .logicalOr => "Or"
  | .logicalNot => "Not"
  | .kwSizeOf => "SizeOf"
  | .kwTypeCast => "TypeCast"
  | .questionMark => "ConditionalOperator"
  | .greater => "Greater"
  | .greaterOrEquals => "GreaterOrEquals"
  | .less => "Less"
  | .lessOrEquals => "LessOrEquals"
  | .equals => "Equals"
  | .notEquals => "NotEquals"
  | .threeWayComparison => "ThreeWayComparison"
  | .dot => "DotOperator"
  | .arrow => "ArrowOperator"
  | .increment => "Increment"
  | .prefixIncrement => "PrefixIncrement"
  | .postfixIncrement => "PostfixIncrement"
  | .decrement => "Decrement"
  | .prefixDecrement => "PrefixDecrement"
  | .postfixDecrement => "PostfixDecrement"
  | .kwNew => "New"
  | .kwDelete => "Delete"
  | .scopeResolution => "ScopeResolution"
  | .kwTrue => "True"
  | .kwFalse => "False"
  | .kwNull => "Null"
  | .kwUsing => "Using"
  | .kwNamespace => "Namespace"
  | .kwImport => "Import"
  | .kwPackage => "Package"
  | .atSign => "Annotation"
  | .kwInterface => "Interface"
  | .kwAbstract => "Abstract"
  | .kwFinal => "Final"
  | .kwNative => "Native"
  | .kwSynchronized => "Synchronized"
  | .kwTransient => "Transient"
  | .kwStrictFp => "StrictFp"
  | .kwAssert => "Assert"
  | .kwTry => "Try"
  | .kwCatch => "Catch"
  | .kwFinally => "Finally"
  | .kwThrows => "Throws"
  | .kwThrow => "Throw"
  | .kwSuper => "Super"
  | .kwThis => "This"
  | .kwExtends => "Extends"
  | .kwImplements => "Implements"
  | .kwVar => "Var"
  | .functionDeclarator => "Function"
  | .functionCall => "FunctionCall"
  | .arrayDeclarator => "Array"
  | .identifier => "Identifier"
  | .number => "Number"
  | .stringLiteral => "StringLiteral"
  | .semicolon => "Semicolon"
  | .comma => "Comma"
  | .colon => "Colon"
  | .openBrace => "OpenBrace"
  | .closeBrace => "CloseBrace"
  | .openParen => "OpenParen"
  | .closeParen => "CloseParen"
  | .openBracket => "OpenBracket"
  | .closeBracket => "CloseBracket"
  | .lineBreak => "LineBreak"
  | .unrecognized => "Unrecognized"

instance : TokenKind Kind := ⟨all, name, "CJKind"⟩

end Kind

end ConceptInventory.CFamily
