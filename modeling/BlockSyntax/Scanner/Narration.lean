import BlockSyntax.Scanner.Tape

/-!
# What the scanner tells

The scanner's notes as text.  A note is either an echo, a character shown as it was first read,
or a trace line:

* `Entering next_token` when a call starts;
* a tab, `Entering state -- MODE: 'c'` and a tab, `Leaving state -- MODE: 'c'` around each
  character the machine takes, with `''` for the end of input;
* `Pushing back 'c'` between them when the character is given back;
* `Leaving next_token: TOKEN` when the call gives a token.
-/

namespace BlockSyntax

namespace Note

/-- A character read, or the end of input, quoted; the end of input is the empty text. -/
def showInput : Option Char → String
  | some c => Text.quote (String.singleton c)
  | none => Text.quote ""

/-- The trace line of a note; an echo has none. -/
def line? : Note → Option String
  | echo _ => none
  | begin => some "Entering next_token"
  | enter m x => some ("\tEntering state -- " ++ m.name ++ ": " ++ showInput x)
  | pushBack c => some ("Pushing back " ++ showInput (some c))
  | leave m x => some ("\tLeaving state -- " ++ m.name ++ ": " ++ showInput x)
  | finish t => some ("Leaving next_token: " ++ t.render)

/-- The character an echo shows. -/
def echoed? : Note → Option Char
  | echo c => some c
  | _ => none

end Note

/-- The text that the echoes among `notes` show. -/
def echoText (notes : List Note) : String :=
  String.ofList (notes.filterMap Note.echoed?)

/-- The trace lines among `notes`. -/
def traceLines (notes : List Note) : List String :=
  notes.filterMap Note.line?

end BlockSyntax
