import BlockSyntax.Token.Basic

/-!
# Syntax errors

A syntax error is a `Problem` found at a token.  Each problem has a message and the kinds of token
that would have been accepted in place of the one seen.  An error is shown as
`Line L, col C: MESSAGE, but saw TOKEN`, where the token is shown without its position.
-/

namespace BlockSyntax

/-- What the checker found wrong at a token. -/
inductive Problem where
  /-- A token of the given kind was required. -/
  | expected (k : Kind)
  /-- No statement starts with the token. -/
  | statementStart
  /-- A statement is followed by neither `,` nor `}`. -/
  | statementEnd
  /-- No operand starts with the token. -/
  | operand
  deriving DecidableEq, Repr

namespace Problem

/-- The message of a problem. -/
def message : Problem → String
  | expected k => "Expected " ++ k.name
  | statementStart => "Expected a type, identifier or '\x7b' to start a statement"
  | statementEnd => "Expected ',' or '\x7d' after a statement"
  | operand => "Expected an integer, float, identifier or '('"

/-- The kinds of token that would have been accepted. -/
def expectedKinds : Problem → List Kind
  | expected k => [k]
  | statementStart => [.type, .ident, .lbrace]
  | statementEnd => [.comma, .rbrace]
  | operand => [.int, .float, .ident, .lparen]

end Problem

/-- A problem and the token it was found at. -/
structure SyntaxError where
  problem : Problem
  token : Token
  deriving DecidableEq, Repr

namespace SyntaxError

/-- The text form of an error with `message`, found at a token of kind `k` with lexeme `text` at
`line`, `column`. -/
def describe (message : String) (k : Kind) (text : String) (line column : Int) : String :=
  let seen := if text.isEmpty then k.name else k.name ++ "(" ++ Text.quote text ++ ")"
  "Line " ++ toString line ++ ", col " ++ toString column ++ ": " ++ message ++ ", but saw " ++ seen

/-- How a syntax error is shown. -/
def render (e : SyntaxError) : String :=
  describe e.problem.message e.token.kind e.token.text e.token.start.line e.token.start.column

end SyntaxError

end BlockSyntax
