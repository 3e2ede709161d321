import BlockSyntax.Scanner.Step

/-!
# Scanning a whole feed

`Reader.tape` calls the scanner until it gives the end token or a read fails; `weight_nextToken_lt`
bounds the number of calls.  `Reader.calls n` makes exactly `n` calls, past the end token if need
be, and stops early only at a failed read.
-/

namespace BlockSyntax

/-- The calls of the scanner that gave tokens, and the failed call that ended them, if one did. -/
structure Tape where
  steps : List Step
  failure : Option (Array Note × ReadFailure)
  deriving Repr

namespace Tape

/-- The tokens of the calls, in order. -/
def tokens (t : Tape) : List Token :=
  t.steps.map (·.token)

/-- The notes of all calls, the failed one included, in order. -/
def notes (t : Tape) : List Note :=
  (t.steps.map fun s => s.notes.toList).flatten ++
    match t.failure with
    | some (ns, _) => ns.toList
    | none => []

end Tape

namespace Reader

/-- The calls of the scanner on `r` up to the end token or a failed read. -/
def tape (r : Reader) : Tape :=
  match h : r.nextToken with
  | .failure notes f => ⟨[], some (notes, f)⟩
  | .token s =>
    if hk : s.token.kind = .eof then ⟨[s], none⟩
    else
      let t := s.reader.tape
      ⟨s :: t.steps, t.failure⟩
termination_by r.weight
decreasing_by exact weight_nextToken_lt h hk

/-- The first `n` calls of the scanner on `r`, fewer only if a read fails. -/
def calls : Nat → Reader → Tape
  | 0, _ => ⟨[], none⟩
  | n + 1, r =>
    match r.nextToken with
    | .failure notes f => ⟨[], some (notes, f)⟩
    | .token s =>
      let t := calls n s.reader
      ⟨s :: t.steps, t.failure⟩

end Reader

end BlockSyntax
