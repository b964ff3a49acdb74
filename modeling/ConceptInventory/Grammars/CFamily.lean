import ConceptInventory.Kinds.CFamily
import ConceptInventory.Lexis.Grammar

/-!
# The C family grammar

One grammar for C, C++ and Java. The fixed spellings come first, so that a
reserved word wins against the identifier rule of the same length and loses to
a longer identifier. Line breaks are tokens; comments and the other blanks are
dropped. Only the block comment reaches over a line break.
-/
namespace ConceptInventory.CFamily

open Pattern

/-- Words and signs with one spelling. -/
def spellings : List (String × Kind) := [
  ("for", .kwFor), ("while", .kwWhile), ("do", .kwDoWhile), ("switch", .kwSwitch),
  ("case", .kwCase), ("default", .kwDefault), ("if", .kwIf), ("else", .kwElse),
  ("break", .kwBreak), ("continue", .kwContinue), ("goto", .kwGoto), ("return", .kwReturn),
  ("unsigned", .kwUnsigned), ("signed", .kwSigned), ("int", .kwInt), ("short", .kwShort),
  ("long", .kwLong), ("float", .kwFloat), ("double", .kwDouble), ("enum", .kwEnum),
  ("struct", .kwStruct), ("union", .kwUnion), ("class", .kwClass), ("template", .kwTemplate),
  ("void", .kwVoid), ("auto", .kwAuto), ("extern", .kwExtern), ("register", .kwRegister),
  ("static", .kwStatic), ("typedef", .kwTypedef), ("decltype", .kwDecltype), ("const", .kwConst),
  ("restrict", .kwRestrict), ("volatile", .kwVolatile), ("mutable", .kwMutable),
  ("public", .kwPublic), ("protected", .kwProtected), ("private", .kwPrivate), ("+", .plus),
  ("-", .minus), ("*", .asterisk), ("/", .divide), ("%", .modulo), ("+=", .addAssignment),
  ("-=", .subAssignment), ("*=", .multAssignment), ("/=", .divAssignment), ("%=", .modAssignment),
  ("=", .assignment), ("&", .ampersand), ("|", .bitwiseOr), ("^", .bitwiseXor),
  ("~", .bitwiseNot), ("<<", .leftOperator), ("<<=", .leftShiftAssignment),
  (">>", .rightOperator), (">>=", .rightShiftAssignment), (">>>", .unsignedRightShift),
  ("&=", .bitwiseAndAssignment), ("|=", .bitwiseOrAssignment), ("^=", .bitwiseXorAssignment),
  ("&&", .logicalAnd), ("||", .logicalOr), ("!", .logicalNot), ("sizeof", .kwSizeOf),
  ("?", .questionMark), (">", .greater), (">=", .greaterOrEquals), ("<", .less),
  ("<=", .lessOrEquals), ("==", .equals), ("!=", .notEquals), ("<=>", .threeWayComparison),
  (".", .dot), ("->", .arrow), ("++", .increment), ("--", .decrement), ("new", .kwNew),
  ("delete", .kwDelete), ("::", .scopeResolution), ("true", .kwTrue), ("false", .kwFalse),
  ("using", .kwUsing), ("namespace", .kwNamespace), ("import", .kwImport),
  ("package", .kwPackage), ("@", .atSign), ("interface", .kwInterface), ("abstract", .kwAbstract),
  ("final", .kwFinal), ("native", .kwNative), ("synchronized", .kwSynchronized),
  ("transient", .kwTransient), ("strictfp", .kwStrictFp), ("assert", .kwAssert), ("try", .kwTry),
  ("catch", .kwCatch), ("finally", .kwFinally), ("throws", .kwThrows), ("throw", .kwThrow),
  ("super", .kwSuper), ("this", .kwThis), ("extends", .kwExtends), ("implements", .kwImplements),
  ("var", .kwVar), (";", .semicolon), (",", .comma), (":", .colon), ("\x7b", .openBrace),
  ("\x7d", .closeBrace), ("(", .openParen), (")", .closeParen), ("[", .openBracket),
  ("]", .closeBracket)]

/-- Two or more words in turn, blanks between them. -/
def words : List String → Pattern
  | [] => empty
  | [w] => lit w
  | w :: rest => seq (lit w) (seq (plus (oneOf " \t")) (words rest))

/-- Keywords of several words or several spellings. -/
def keywordFamilies : List (Pattern × Kind) := [
  (words ["else", "if"], .kwElseIf),
  (words ["short", "int"], .kwShortInt),
  (words ["long", "int"], .kwLongInt),
  (words ["long", "long"], .kwLongLong),
  (words ["long", "long", "int"], .kwLongLongInt),
  (words ["long", "double"], .kwLongDouble),
  (choice ["char8_t", "char16_t", "char32_t", "wchar_t", "char"], .kwChar),
  (choice ["boolean", "bool"], .kwBool),
  (choice ["String", "string"], .kwString),
  (choice ["_Thread_local", "thread_local"], .kwThreadLocal),
  (choice ["_Atomic", "atomic_int"], .kwAtomic),
  (choice ["const_cast", "static_cast", "dynamic_cast", "reinterpret_cast"], .kwTypeCast),
  (choice ["nullptr", "NULL", "null", "Null"], .kwNull)]

def directives : List String :=
  ["define", "undef", "ifdef", "ifndef", "if", "endif", "else", "elif", "line", "error",
    "include", "pragma"]

def directive : Pattern := seq (char '#') (choice directives)

def identifier : Pattern := seq (one isWordStart) (many (one isWordPart))

def digits : Pattern := plus (one isDigit)

def exponent : Pattern := seq (oneOf "eE") (seq (opt (oneOf "+-")) digits)

/-- Hexadecimal, or decimal with fraction and exponent, and the suffixes of C. -/
def number : Pattern :=
  alt
    (inOrder [char '0', oneOf "xX", plus (one isHexDigit), many (oneOf "uUlL")])
    (inOrder [
      alt (seq digits (opt (seq (char '.') (many (one isDigit))))) (seq (char '.') digits),
      opt exponent, many (oneOf "uUlLfFdD")])

/-- Text between two equal quotes on one line; a backslash takes the next
character with it, a line feed excepted. -/
def quoted (q : Char) : Pattern :=
  inOrder [
    char q,
    many (alt (one fun c => c != q && c != '\\' && c != '\n')
      (seq (char '\\') (one fun c => c != '\n'))),
    char q]

def stringLiteral : Pattern := alt (quoted '"') (quoted '\'')

def lineComment : Pattern := seq (lit "//") (many (noneOf "\r\n"))

def blockComment : Pattern := inOrder [lit "/*", fewest any, lit "*/"]

def grammar : Grammar Kind where
  rules :=
    spellings.map (fun e => .fixed e.1 e.2)
      ++ keywordFamilies.map (fun e => .keyword e.1 e.2)
      ++ [⟨directive, true, some .directive, true⟩,
        .kept identifier .identifier,
        .kept number .number,
        .kept stringLiteral .stringLiteral,
        .dropped lineComment,
        .dropped blockComment,
        .dropped (plus (oneOf " \t\x0c\x0b")),
        .folded (plus (oneOf "\r\n")) .lineBreak]
  unrecognized := .unrecognized

end ConceptInventory.CFamily
