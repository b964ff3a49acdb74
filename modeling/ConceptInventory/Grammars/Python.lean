import ConceptInventory.Kinds.Python
import ConceptInventory.Lexis.Grammar

/-!
# The Python grammar

Written values are matched as a whole and fold into the kind of their type:
numbers, flat lists, tuples and dictionaries of words, and quoted strings,
which alone may reach over a line break. A call with plain arguments is one
token. Comments, blanks and line breaks are dropped.
-/
namespace ConceptInventory.Python

open Pattern

/-- Words and signs with one spelling. -/
def spellings : List (String × Kind) := [
  ("for", .kwFor), ("while", .kwWhile), ("break", .kwBreak), ("continue", .kwContinue),
  ("return", .kwReturn), ("pass", .kwPass), ("match", .kwMatch), ("case", .kwCase), ("if", .kwIf),
  ("elif", .kwElif), ("else", .kwElse), ("try", .kwTry), ("except", .kwExcept),
  ("finally", .kwFinally), ("raise", .kwRaise), ("import", .kwImport), ("from", .kwFrom),
  ("float", .kwFloat), ("int", .kwInt), ("complex", .kwComplex), ("True", .kwTrue),
  ("False", .kwFalse), ("bool", .kwBool), ("list", .kwList), ("tuple", .kwTuple),
  ("dict", .kwDict), ("set", .kwSet), ("bytes", .kwBytes), ("class", .kwClass), ("str", .kwStr),
  ("None", .kwNone), ("def", .kwDef), ("@", .decorator), ("global", .kwGlobal),
  ("async", .kwAsync), ("+", .addition), ("+=", .addAssignment), ("-", .subtraction),
  ("-=", .subAssignment), ("*", .multiplication), ("*=", .multAssignment), ("/", .division),
  ("/=", .divAssignment), ("//", .floorDivision), ("//=", .floorDivAssignment), ("%", .modulo),
  ("%=", .modAssignment), ("**", .exponentiation), ("**=", .expAssignment), ("=", .assignment),
  (":=", .assignmentExpression), ("&", .bitwiseAnd), ("&=", .bitwiseAndAssignment),
  ("|", .bitwiseOr), ("|=", .bitwiseOrAssignment), ("^", .bitwiseXor),
  ("^=", .bitwiseXorAssignment), ("~", .bitwiseNot), ("<<", .bitwiseLeftShift),
  ("<<=", .bitwiseLeftShiftAssignment), (">>", .bitwiseRightShift),
  (">>=", .bitwiseRightShiftAssignment), ("and", .kwAnd), ("or", .kwOr), ("not", .kwNot),
  (">", .greater), (">=", .greaterOrEquals), ("<", .less), ("<=", .lessOrEquals), ("==", .equal),
  ("!=", .notEquals), (".", .memberAccess), ("is", .kwIs), ("in", .kwIn), ("yield", .kwYield),
  ("await", .kwAwait), ("lambda", .kwLambda), ("->", .arrow), (":", .colon), (",", .comma),
  (";", .semicolon), ("(", .openParen), (")", .closeParen), ("[", .openBracket),
  ("]", .closeBracket), ("\x7b", .openBrace), ("\x7d", .closeBrace)]

/-- Two words with blanks between them. -/
def twoWords (v w : String) : Pattern := inOrder [lit v, plus (oneOf " \t"), lit w]

def keywordFamilies : List (Pattern × Kind) := [
  (twoWords "is" "not", .kwIsNot),
  (twoWords "not" "in", .kwNotIn),
  (lit "@final", .finalMark),
  (lit "@overload", .overloadMark)]

def digits : Pattern := plus (one isDigit)

def float : Pattern :=
  inOrder [many (one isDigit), char '.', digits,
    opt (inOrder [oneOf "eE", opt (oneOf "+-"), digits])]

def int : Pattern :=
  alt
    (inOrder [char '0', oneOf "xXoObB", plus (one fun c => isHexDigit c || c == '_')])
    (seq (one isDigit) (many (one fun c => isDigit c || c == '_')))

def complex : Pattern :=
  inOrder [opt (seq (many (one isDigit)) (char '.')), digits, oneOf "jJ"]

/-- A character of a flat list: words, commas, points and spaces. -/
def isListPart (c : Char) : Bool := isWordPart c || c == ',' || c == '.' || c == ' '

def list : Pattern := inOrder [char '[', many (one isListPart), char ']']

/-- Without a comma between them parentheses only group. -/
def tuple : Pattern :=
  inOrder [char '(',
    opt (inOrder [many (one fun c => isWordPart c || c == '.' || c == ' '), char ',',
      many (one isListPart)]),
    char ')']

def dict : Pattern :=
  inOrder [char '\x7b', many (one fun c => isListPart c || c == ':'), char '\x7d']

/-- Text between two equal quotes; a backslash takes the next character with it. -/
def quoted (q : Char) : Pattern :=
  inOrder [char q, many (alt (one fun c => c != q && c != '\\') (seq (char '\\') any)), char q]

def string : Pattern := alt (quoted '"') (quoted '\'')

def call : Pattern :=
  inOrder [plus (one isWordPart), char '(',
    many (one fun c => isWordPart c || c == ',' || c == ' '), char ')']

def identifier : Pattern := seq (one isWordStart) (many (one isWordPart))

def comment : Pattern := seq (char '#') (many (noneOf "\r\n"))

def grammar : Grammar Kind where
  rules :=
    spellings.map (fun e => .fixed e.1 e.2)
      ++ keywordFamilies.map (fun e => .keyword e.1 e.2)
      ++ [.folded float .kwFloat,
        .folded int .kwInt,
        .folded complex .kwComplex,
        .folded list .kwList,
        .folded tuple .kwTuple,
        .folded dict .kwDict,
        .folded string .kwStr,
        .folded call .functionCall,
        .kept identifier .identifier,
        .dropped comment,
        .dropped (plus (oneOf " \t\r\n\x0c\x0b"))]
  unrecognized := .unrecognized

end ConceptInventory.Python
