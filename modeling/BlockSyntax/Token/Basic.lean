import BlockSyntax.Text.Quote

/-!
# Tokens

The block language has seventeen kinds of token: the separators `,` and `=`, four brackets, five
arithmetic operators, type names, identifiers, integer and float literals, malformed lexemes, and
the end of input.  A `Token` is a kind, the lexeme it was read from, and the position where the
lexeme starts.

Tokens are shown as `NAME('lexeme') <line,column>`, with the lexeme quoted by `Text.quote`; the
end of input has an empty lexeme and is shown as `NAME <line,column>`.
-/

namespace BlockSyntax

/-- The kinds of token. -/
inductive Kind where
  | comma | assign | lbrace | rbrace | lparen | rparen
  | add | sub | mul | div | mod
  | type | ident | int | float | error | eof
  deriving DecidableEq, Repr, Inhabited

namespace Kind

/-- The upper-case name a kind is shown by. -/
def name : Kind → String
  | comma => "COMMA"
  | assign => "ASSIGN"
  | lbrace => "LBRACE"
  | rbrace => "RBRACE"
  | lparen => "LPAREN"
  | rparen => "RPAREN"
  | add => "ADD"
  | sub => "SUB"
  | mul => "MUL"
  | div => "DIV"
  | mod => "MOD"
  | type => "TYPE"
  | ident => "IDENT"
  | int => "INT"
  | float => "FLOAT"
  | error => "ERROR"
  | eof => "EOF"

/-- All kinds, each once. -/
def all : List Kind :=
  [comma, assign, lbrace, rbrace, lparen, rparen, add, sub, mul, div, mod,
    type, ident, int, float, error, eof]

/-- The kind a name shows, if any. -/
def ofName? (s : String) : Option Kind :=
  all.find? (·.name = s)

theorem mem_all (k : Kind) : k ∈ all := by
  cases k <;> decide

theorem ofName?_name (k : Kind) : ofName? k.name = some k := by
  cases k <;> rfl

end Kind

/-- A line and a column, both counted from 1.  A position names the next character to read. -/
structure Position where
  line : Nat
  column : Nat
  deriving DecidableEq, Repr, Inhabited

namespace Position

/-- Where a text starts: line 1, column 1. -/
def start : Position := ⟨1, 1⟩

/-- The position after reading `c`: a line feed starts the next line, any other character moves
one column on. -/
def advance (p : Position) (c : Char) : Position :=
  if c = '\n' then ⟨p.line + 1, 1⟩ else ⟨p.line, p.column + 1⟩

/-- The position after reading all of `cs`. -/
def advanceAll (p : Position) (cs : List Char) : Position :=
  cs.foldl advance p

@[simp] theorem advanceAll_nil (p : Position) : p.advanceAll [] = p := rfl

@[simp] theorem advanceAll_cons (p : Position) (c : Char) (cs : List Char) :
    p.advanceAll (c :: cs) = (p.advance c).advanceAll cs := rfl

end Position

/-- A token: its kind, its lexeme, and the position of the lexeme's first character. -/
structure Token where
  kind : Kind
  text : String
  start : Position
  deriving DecidableEq, Repr, Inhabited

namespace Token

/-- The text form of a token of kind `k` with lexeme `text` at `line`, `column`. -/
def describe (k : Kind) (text : String) (line column : Int) : String :=
  let head := if text.isEmpty then k.name else k.name ++ "(" ++ Text.quote text ++ ")"
  head ++ " <" ++ toString line ++ "," ++ toString column ++ ">"

/-- The long text form of a token, naming each field. -/
def describeFields (k : Kind) (text : String) (line column : Int) : String :=
  "Token(" ++ k.name ++ ", " ++ Text.quote text ++ ", line=" ++ toString line ++ ", col=" ++
    toString column ++ ")"

/-- How a token is shown in listings, messages and traces. -/
def render (t : Token) : String :=
  describe t.kind t.text t.start.line t.start.column

example : render ⟨.ident, "x", ⟨1, 2⟩⟩ = "IDENT('x') <1,2>" := by decide +kernel

example : render ⟨.eof, "", ⟨3, 1⟩⟩ = "EOF <3,1>" := by decide +kernel

end Token

end BlockSyntax
