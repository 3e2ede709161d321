import BlockSyntax.Text.Letter
import BlockSyntax.Token.Basic

/-!
# The scanner's machine

The scanner reads a lexeme one character at a time, in one of eight modes.  `Mode.onChar` says
what a mode does with a character: skip it (a blank before the lexeme), keep it and go on in a
mode, make it a lexeme of its own, or close the lexeme before it.  `Mode.closeKind` gives the kind
of the lexeme when it closes in a mode, before a character or at the end of input.

The lexemes this yields:
* a run of letters, a type name if it is `int`, `char` or `float` and an identifier otherwise;
* `0`, or a nonzero digit and more digits: an integer; either followed by `.` and digits: a float;
* a `.` with no digit after it ends the lexeme as malformed, the `.` kept in it;
* `0` followed by a digit begins a malformed lexeme that takes all further digits, and a `.` and
  further digits after them;
* a punctuation character; any other character is a malformed lexeme of its own.
-/

namespace BlockSyntax

/-- The blanks between lexemes: space, tab, line feed and carriage return. -/
def isBlank (c : Char) : Bool :=
  c = ' ' || c = '\t' || c = '\n' || c = '\r'

/-- The kind of a punctuation character. -/
def punctuation? : Char → Option Kind
  | ',' => some .comma
  | '=' => some .assign
  | '{' => some .lbrace
  | '}' => some .rbrace
  | '(' => some .lparen
  | ')' => some .rparen
  | '+' => some .add
  | '-' => some .sub
  | '*' => some .mul
  | '/' => some .div
  | '%' => some .mod
  | _ => none

/-- The words that name types. -/
def typeNames : List String := ["int", "char", "float"]

/-- The modes of the scanner, shown by the names below. -/
inductive Mode where
  /-- Before a lexeme: blanks are skipped. -/
  | start
  /-- In a run of letters. -/
  | word
  /-- After a lone `0`. -/
  | zero
  /-- In the digits of an integer. -/
  | whole
  /-- After the `.` of a number, before its first fractional digit. -/
  | point
  /-- In the fractional digits of a float. -/
  | fraction
  /-- In the digits of a number that starts with `0` and another digit. -/
  | badWhole
  /-- In the fractional digits of such a number. -/
  | badFraction
  deriving DecidableEq, Repr, Inhabited

/-- What a mode does with one character. -/
inductive Move where
  /-- A blank before the lexeme: dropped. -/
  | skip
  /-- The character joins the lexeme and the machine goes on in the mode. -/
  | keep (m : Mode)
  /-- The character alone is a lexeme of the kind. -/
  | single (k : Kind)
  /-- The lexeme ends before the character, which is read again by the next lexeme. -/
  | close
  deriving DecidableEq, Repr

namespace Mode

/-- The upper-case name a mode is shown by. -/
def name : Mode → String
  | start => "START"
  | word => "IDENT"
  | zero => "ZERO"
  | whole => "INT"
  | point => "PERIOD"
  | fraction => "FLOAT"
  | badWhole => "ERROR_INT"
  | badFraction => "ERROR_FLOAT"

/-- What mode `m` does with the character `c`. -/
def onChar : Mode → Char → Move
  | start, c =>
    if isBlank c then .skip
    else if c = '0' then .keep zero
    else if c.isDigit then .keep whole
    else if Text.isLetter c then .keep word
    else .single ((punctuation? c).getD .error)
  | word, c => if Text.isLetter c then .keep word else .close
  | zero, c => if c.isDigit then .keep badWhole else if c = '.' then .keep point else .close
  | whole, c => if c.isDigit then .keep whole else if c = '.' then .keep point else .close
  | point, c => if c.isDigit then .keep fraction else .close
  | fraction, c => if c.isDigit then .keep fraction else .close
  | badWhole, c => if c.isDigit then .keep badWhole else if c = '.' then .keep badFraction else .close
  | badFraction, c => if c.isDigit then .keep badFraction else .close

/-- The kind of the lexeme `text` when it closes in mode `m`.  In `start` nothing was read, which
happens only at the end of input. -/
def closeKind : Mode → String → Kind
  | start, _ => .eof
  | word, text => if text ∈ typeNames then .type else .ident
  | zero, _ => .int
  | whole, _ => .int
  | point, _ => .error
  | fraction, _ => .float
  | badWhole, _ => .error
  | badFraction, _ => .error

/-- The start mode never closes a lexeme. -/
theorem onChar_start_ne_close (c : Char) : start.onChar c ≠ .close := by
  simp only [onChar]
  repeat (split <;> try simp)

end Mode

end BlockSyntax
