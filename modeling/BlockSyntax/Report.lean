import BlockSyntax.Journal

/-!
# Checking a feed

`Report.ofFeed` scans a feed and checks its tokens.  The report keeps the calls of the scanner
that the check made, in order, the checker's verdict, and the failed call the check ended on, if
a read failed.  The scanner runs ahead of the checker here; only the calls that answer the
checker's pulls count, so a failure further on that the check never reached plays no part.
`Report.result` is what the check answers.
-/

namespace BlockSyntax

/-- A check of a program read from a feed. -/
structure Report where
  /-- The calls of the scanner that the check made, in order. -/
  calls : List Step
  /-- How the check ended. -/
  verdict : Verdict
  /-- The failed call the check ended on, if it ended on one. -/
  failure : Option (Array Note × ReadFailure)

namespace Report

/-- Checks the tokens of a tape. -/
def ofTape (t : Tape) : Report :=
  let v := check t.tokens
  let failure := match v with
    | .unreadable _ => t.failure
    | .finished _ => none
  ⟨t.answers v.pulls, v, failure⟩

/-- Scans a feed and checks its tokens. -/
def ofFeed (f : Feed) : Report :=
  ofTape (Reader.ofFeed f).tape

/-- The journal of the check: the checker's events with the scanner's notes at each pull, and the
notes of a failed call at the end. -/
def entries (r : Report) : List Entry :=
  interleave r.calls r.verdict.log.toList ++
    match r.failure with
    | some (notes, _) => notes.toList.map .scan
    | none => []

/-- The syntax errors found, in order. -/
def errors (r : Report) : List SyntaxError :=
  r.verdict.errors

/-- The failed read that ended the check, if one did. -/
def readFailure? (r : Report) : Option ReadFailure :=
  r.failure.map (·.2)

/-- Whether the program was read to its end and has no syntax error. -/
def success (r : Report) : Bool :=
  r.readFailure?.isNone && r.errors.isEmpty

/-- The lookahead when the check ended, unless a read failed. -/
def lookahead? (r : Report) : Option Token :=
  match r.verdict with
  | .finished s => some s.lookahead
  | .unreadable _ => none

/-- The reader after the last call of the scanner. -/
def lastReader? (r : Report) : Option Reader :=
  r.calls.getLast?.map (·.reader)

end Report

/-- What a check answers: whether the program passed, the syntax errors found, and the message of
the failed read that stopped the check, if one did. -/
structure CheckResult where
  success : Bool
  errors : List SyntaxError
  errorMessage : Option String
  deriving Repr

/-- Whether the check stopped because its input could not be read. -/
def CheckResult.fatal (c : CheckResult) : Bool :=
  c.errorMessage.isSome

/-- The answer of a check.  A failed read stops the check before it has judged the whole program,
so the syntax errors found before it are dropped and only the failure is told. -/
def Report.result (r : Report) : CheckResult :=
  match r.readFailure? with
  | some f => ⟨false, [], some f.render⟩
  | none => ⟨r.errors.isEmpty, r.errors, none⟩

end BlockSyntax
