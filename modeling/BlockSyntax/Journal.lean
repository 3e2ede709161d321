import BlockSyntax.Scanner.Narration
import BlockSyntax.Syntax.Check
import BlockSyntax.Settings

/-!
# The journal of a check

Scanner and checker run interleaved: each token the checker pulls is one call of the scanner,
whose notes come at that point.  `interleave` merges the checker's events with the notes of the
calls that answer its pulls, in order, into one list of `Entry`s; `Entry.line?` gives the trace
line of an entry with its channel, and `Entry.echoed?` the character an echo shows.

The checker's trace lines are `>>> Entering PROCEDURE` and `<<< Leaving PROCEDURE`, then
`Syntax error: ERROR` for a recorded error and `Skipping TOKEN` for a skipped token.
-/

namespace BlockSyntax

/-- The trace line of an event; a pull has none of its own. -/
def Event.line? : Event → Option String
  | .pull => none
  | .enter p => some (">>> Entering " ++ p.name)
  | .leave p => some ("<<< Leaving " ++ p.name)
  | .report e => some ("Syntax error: " ++ e.render)
  | .skip t => some ("Skipping " ++ t.render)

/-- One entry of the journal. -/
inductive Entry where
  | scan (n : Note)
  | check (e : Event)
  deriving DecidableEq, Repr

namespace Entry

/-- The trace line of an entry, with its channel. -/
def line? : Entry → Option (Channel × String)
  | scan n => n.line?.map (Channel.tokenizer, ·)
  | check e => e.line?.map (Channel.parser, ·)

/-- The character an entry echoes. -/
def echoed? : Entry → Option Char
  | scan n => n.echoed?
  | check _ => none

end Entry

/-- The events of a check with the notes of `calls`, the calls that answer its pulls in order,
put in at each pull. -/
def interleave : List Step → List Event → List Entry
  | _, [] => []
  | calls, .pull :: es =>
    match calls with
    | s :: rest => s.notes.toList.map .scan ++ interleave rest es
    | [] => interleave [] es
  | calls, e :: es => .check e :: interleave calls es

/-- The trace lines of the entries on the channels that `settings` trace. -/
def traceOf (settings : Settings) (entries : List Entry) : List (Channel × String) :=
  (entries.filterMap Entry.line?).filter fun l => settings.traces l.1

/-- The text the entries echo. -/
def echoOf (entries : List Entry) : String :=
  String.ofList (entries.filterMap Entry.echoed?)

namespace Tape

/-- The call after the end token: it gives the end token again, without reading. -/
def again (t : Tape) : List Step :=
  match t.steps.getLast? with
  | some s =>
    if s.token.kind = .eof then
      match s.reader.nextToken with
      | .token s' => [s']
      | .failure _ _ => []
    else []
  | none => []

/-- The calls that answer `n` pulls: the tape's calls in order, then the call after the end token
as often as needed. -/
def answers (t : Tape) (n : Nat) : List Step :=
  t.steps.take n ++ (List.replicate (n - t.steps.length) t.again).flatten

end Tape

end BlockSyntax
