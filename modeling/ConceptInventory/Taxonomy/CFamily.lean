import ConceptInventory.Kinds.CFamily
import ConceptInventory.Taxonomy.Treatment

/-!
# The C family taxonomy

Most kinds are filed under fixed categories. The others are decided by their
neighbours:

* an asterisk multiplies after an identifier or a number, else it points;
* an ampersand combines bits after an identifier or a number, else it refers;
* double angles shift, unless a stream stands before them;
* an increment or decrement is prefix before an identifier or a number;
* a single angle compares an identifier with a number, else it is skipped;
* an opening parenthesis after a callee declares or calls a function;
* an opening bracket always stands for an array.

A place outside the token list counts as a neighbour of no kind.
-/
namespace ConceptInventory.CFamily

open Category

inductive Ambiguity
  | asterisk | ampersand | leftAngles | rightAngles | increment | decrement | angle
  | openParen | openBracket
deriving DecidableEq, Repr

/-- Types that can start a declaration. -/
def Kind.isType : Kind → Bool
  | .kwUnsigned | .kwSigned | .kwChar | .kwInt | .kwShort | .kwShortInt | .kwLong | .kwLongInt
  | .kwLongLong | .kwLongLongInt | .kwFloat | .kwDouble | .kwLongDouble | .kwBool | .kwString
  | .kwVoid | .kwAuto | .kwVar => true
  | _ => false

def Kind.isOperand : Kind → Bool
  | .identifier | .number => true
  | _ => false

def outputStreams : List String := ["cout", "cerr", "clog", "wcout", "wcerr", "wclog"]

def inputStreams : List String := ["cin", "wcin"]

/-- How each kind is treated. -/
def treatment : Kind → Treatment Ambiguity
  | .directive => .filed [preprocessor]
  | .kwFor | .kwWhile | .kwDoWhile => .filed iteration
  | .kwSwitch | .kwIf | .kwElseIf | .kwElse => .filed condition
  | .kwCase | .kwDefault => .filed [statement, "Label"]
  | .kwBreak | .kwContinue | .kwGoto | .kwReturn => .filed jump
  | .kwUnsigned | .kwSigned => .filed (arithmeticTypes ++ ["Sign"])
  | .kwChar => .filed (arithmeticTypes ++ ["Character"])
  | .kwInt | .kwShort | .kwShortInt | .kwLong | .kwLongInt | .kwLongLong | .kwLongLongInt =>
    .filed (arithmeticTypes ++ ["Integer Number"])
  | .kwFloat | .kwDouble | .kwLongDouble => .filed (arithmeticTypes ++ ["Floating Point Number"])
  | .kwBool => .filed (dataTypes ++ ["Boolean"])
  | .kwString => .filed (dataTypes ++ ["String"])
  | .kwEnum | .kwStruct | .kwUnion | .kwClass | .kwTemplate =>
    .filed (dataTypes ++ ["Elaborated Type Specifier"])
  | .kwVoid => .filed (dataTypes ++ ["Void"])
  | .kwInterface => .filed (dataTypes ++ ["Abstract Data Type"])
  | .kwVar => .filed (dataTypes ++ ["Var Data Type"])
  | .kwAuto | .kwExtern | .kwRegister | .kwStatic | .kwThreadLocal | .kwTypedef | .kwDecltype =>
    .filed [declaration, "Storage Class"]
  | .kwAtomic | .kwConst | .kwRestrict | .kwVolatile | .kwMutable =>
    .filed [declaration, "Type Qualifier"]
  | .kwPublic | .kwProtected | .kwPrivate => .filed [declaration, "Access Specifier"]
  | .kwUsing => .filed [declaration, "Using"]
  | .kwNamespace => .filed [declaration, "Namespace"]
  | .atSign | .kwAbstract | .kwFinal | .kwNative | .kwSynchronized | .kwTransient | .kwStrictFp
  | .kwAssert => .filed [declaration, "Modifier"]
  | .kwExtends | .kwImplements => .filed [declaration, "Class Extension"]
  | .arrayDeclarator | .functionDeclarator | .pointer => .filed declarators
  | .functionCall | .kwTypeCast | .questionMark => .filed [expression]
  | .plus | .minus | .multiplication | .divide | .modulo => .filed arithmetic
  | .addAssignment | .subAssignment | .multAssignment | .divAssignment | .modAssignment
  | .assignment => .filed assignment
  | .bitwiseAnd | .bitwiseOr | .bitwiseXor | .bitwiseNot | .leftShift | .leftShiftAssignment
  | .rightShift | .rightShiftAssignment | .bitwiseAndAssignment | .bitwiseOrAssignment
  | .bitwiseXorAssignment | .unsignedRightShift => .filed bitwise
  | .reference => .filed memberAccess
  | .logicalAnd | .logicalOr | .logicalNot => .filed logical
  | .kwSizeOf => .filed [expression, "Size Of"]
  | .greaterOrEquals | .lessOrEquals | .equals | .notEquals | .threeWayComparison =>
    .filed comparison
  | .prefixIncrement | .postfixIncrement => .filed [expression, "Increment"]
  | .prefixDecrement | .postfixDecrement => .filed [expression, "Decrement"]
  | .kwNew | .kwDelete => .filed [expression, "Memory Allocation"]
  | .scopeResolution => .filed [expression, "Nested Specifier", "Scope Resolution"]
  | .kwTrue | .kwFalse | .kwNull => .filed [expression, "Predefined Constant"]
  | .kwImport | .kwPackage => .filed [compilationUnit]
  | .kwTry | .kwCatch | .kwFinally => .filed tryBlock
  | .kwThrow | .kwThrows => .filed throwStatement
  | .kwSuper | .kwThis => .filed [expression, primaryExpression, "Abstract Data Type"]
  | .asterisk => .byContext .asterisk
  | .ampersand => .byContext .ampersand
  | .leftOperator => .byContext .leftAngles
  | .rightOperator => .byContext .rightAngles
  | .increment => .byContext .increment
  | .decrement => .byContext .decrement
  | .greater | .less => .byContext .angle
  | .openParen => .byContext .openParen
  | .openBracket => .byContext .openBracket
  | .dot | .arrow | .identifier | .number | .stringLiteral | .semicolon | .comma | .colon
  | .openBrace | .closeBrace | .closeParen | .closeBracket | .lineBreak | .unrecognized =>
    .skipped

def isOperand (t : Option (Token Kind)) : Bool := t.any fun t => t.kind.isOperand

def isType (t : Option (Token Kind)) : Bool := t.any fun t => t.kind.isType

def isKind (k : Kind) (t : Option (Token Kind)) : Bool := t.any fun t => t.kind == k

/-- An identifier spelt like one of the streams. -/
def isStream (streams : List String) (t : Option (Token Kind)) : Bool :=
  t.any fun t => t.kind == .identifier && t.text.any streams.contains

/-- What an ambiguous token stands for at its place, and where that is filed. -/
def Ambiguity.resolve (a : Ambiguity) (w : Window Kind) (t : Token Kind) :
    Option (Token Kind × List String) :=
  match a with
  | .asterisk =>
    if isOperand (w.previous 1) then some (.bare .multiplication, arithmetic)
    else some (.bare .pointer, declarators)
  | .ampersand =>
    if isOperand (w.previous 1) then some (.bare .bitwiseAnd, bitwise)
    else some (.bare .reference, memberAccess)
  | .leftAngles =>
    if isStream outputStreams (w.previous 1) then none else some (.bare .leftShift, bitwise)
  | .rightAngles =>
    if isStream inputStreams (w.previous 1) then none else some (.bare .rightShift, bitwise)
  | .increment =>
    if isOperand (w.next 1) then some (.bare .prefixIncrement, [expression, "Increment"])
    else some (.bare .postfixIncrement, [expression, "Increment"])
  | .decrement =>
    if isOperand (w.next 1) then some (.bare .prefixDecrement, [expression, "Decrement"])
    else some (.bare .postfixDecrement, [expression, "Decrement"])
  | .angle =>
    if isKind .number (w.next 1) && isKind .identifier (w.previous 1) then some (t, comparison)
    else none
  | .openParen =>
    if isType (w.previous 1) then some (.bare .functionDeclarator, declarators)
    else if !isKind .identifier (w.previous 1) then none
    else if isType (w.previous 2) then some (.bare .functionDeclarator, declarators)
    else some (.bare .functionCall, [expression])
  | .openBracket => some (.bare .arrayDeclarator, declarators)

/-- Classifies the token under a window, none if it is skipped. -/
def classify (w : Window Kind) : Option (Classification Kind) :=
  w.current.bind fun t =>
    match treatment t.kind with
    | .filed outer => some (.file t outer)
    | .skipped => none
    | .byContext a => (a.resolve w t).map fun r => .file r.1 r.2

end ConceptInventory.CFamily
