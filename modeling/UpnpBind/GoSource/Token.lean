/-!
# Tokens of generated Go source

The generated bindings are Go source, which is parsed and laid out again
before it is written. A token is a literal of some kind, an operator or
punctuation mark, a keyword, a comment, an illegal character or the end of
the file. Operators and keywords are known by their text; a token's name is
that text for them and the upper-case kind name otherwise, as error messages
show it. Binary operators bind in five levels, from `||` (1) to the
multiplicative ones (5).
-/

namespace UpnpBind.GoSource

/-- A token kind. -/
inductive Tok where
  | illegal
  | eof
  | comment
  | ident
  | int
  | float
  | imag
  | char
  | string
  /-- An operator or punctuation mark, by its text. -/
  | op (s : String)
  /-- A keyword, by its text. -/
  | kw (s : String)
deriving Repr, DecidableEq, Inhabited

/-- The keywords. -/
def keywords : List String :=
  ["break", "case", "chan", "const", "continue", "default", "defer", "else", "fallthrough",
   "for", "func", "go", "goto", "if", "import", "interface", "map", "package", "range",
   "return", "select", "struct", "switch", "type", "var"]

namespace Tok

/-- Opening and closing braces, which string literals cannot hold plainly. -/
def lbrace : Tok := .op "\x7b"
def rbrace : Tok := .op "\x7d"
def lparen : Tok := .op "("
def rparen : Tok := .op ")"
def lbrack : Tok := .op "["
def rbrack : Tok := .op "]"
def semicolon : Tok := .op ";"
def comma : Tok := .op ","
def period : Tok := .op "."
def colon : Tok := .op "\x3a"
def assign : Tok := .op "="
def define : Tok := .op "\x3a="
def ellipsis : Tok := .op "..."
def mul : Tok := .op "*"
def arrow : Tok := .op "<-"
def tilde : Tok := .op "~"

/-- The name of a token, as error messages show it. -/
def name : Tok → String
  | .illegal => "ILLEGAL"
  | .eof => "EOF"
  | .comment => "COMMENT"
  | .ident => "IDENT"
  | .int => "INT"
  | .float => "FLOAT"
  | .imag => "IMAG"
  | .char => "CHAR"
  | .string => "STRING"
  | .op s => s
  | .kw s => s

/-- Whether a token is a literal: an identifier or a basic literal. -/
def isLiteral : Tok → Bool
  | .ident | .int | .float | .imag | .char | .string => true
  | _ => false

/-- The keyword of a text, or an identifier. -/
def lookup (s : String) : Tok := if keywords.contains s then .kw s else .ident

/-- The binding level of a binary operator; 0 for other tokens. -/
def precedence : Tok → Nat
  | .op "||" => 1
  | .op "&&" => 2
  | .op "==" | .op "!=" | .op "<" | .op "<=" | .op ">" | .op ">=" => 3
  | .op "+" | .op "-" | .op "|" | .op "^" => 4
  | .op "*" | .op "/" | .op "%" | .op "<<" | .op ">>" | .op "&" | .op "&^" => 5
  | _ => 0

/-- The level of unary operators. -/
def unaryPrec : Nat := 6

/-- Binds tighter than any operator. -/
def highestPrec : Nat := 7

/-- The assignment operators other than `=` and `:=`. -/
def opAssigns : List String :=
  ["+=", "-=", "*=", "/=", "%=", "&=", "|=", "^=", "<<=", ">>=", "&^="]

/-- Whether a token is an assignment operator. -/
def isAssign : Tok → Bool
  | .op s => s == "=" || s == "\x3a=" || opAssigns.contains s
  | _ => false

end Tok

end UpnpBind.GoSource
