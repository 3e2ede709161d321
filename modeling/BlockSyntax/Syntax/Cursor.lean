import BlockSyntax.Syntax.Error

/-!
# The checker's cursor

The checker reads a list of tokens from left to right with one token of lookahead.  A `Cursor`
holds the lookahead, the tokens after it, and the `Event`s recorded so far: each token pulled from
the scanner, each grammar procedure entered and left, each syntax error reported and each token
skipped in recovery.

Moving past the lookahead pulls the next token.  At the end token the scanner answers the end token
again, so the cursor stays; when the tokens run out before the end token, the scanner has failed
and there is nothing to pull.

A procedure started on a cursor of `size` `n` ends in a `Reply n`: normally or by a `Halt`, and
either way on a cursor no larger than `n`.  The bound is what lets the procedures of the grammar
call each other and still end.
-/

namespace BlockSyntax

/-- The procedures of the grammar, one per nonterminal. -/
inductive Procedure where
  | program | block | stmtList | stmt | declaration | assignment | exp | term | factor
  deriving DecidableEq, Repr

/-- The name a procedure is shown by. -/
def Procedure.name : Procedure → String
  | .program => "parse_program"
  | .block => "parse_block"
  | .stmtList => "parse_stmt_list"
  | .stmt => "parse_stmt"
  | .declaration => "parse_declaration"
  | .assignment => "parse_assignment"
  | .exp => "parse_exp"
  | .term => "parse_term"
  | .factor => "parse_factor"

/-- What the checker records as it goes. -/
inductive Event where
  /-- A token is pulled from the scanner. -/
  | pull
  /-- A procedure starts. -/
  | enter (p : Procedure)
  /-- A procedure returns normally. -/
  | leave (p : Procedure)
  /-- A syntax error is recorded. -/
  | report (e : SyntaxError)
  /-- A token is skipped to recover from an error. -/
  | skip (t : Token)
  deriving DecidableEq, Repr

/-- Why a procedure stops early. -/
inductive Halt where
  /-- A syntax error, to be reported by an enclosing procedure. -/
  | fault (e : SyntaxError)
  /-- The scanner failed, so there is no token to pull. -/
  | unreadable
  deriving DecidableEq, Repr

/-- The checker between two steps. -/
structure Cursor where
  /-- The token under examination. -/
  lookahead : Token
  /-- The tokens after it, as far as the scanner gave them. -/
  ahead : List Token
  /-- The events so far, oldest first. -/
  log : Array Event
  deriving Repr

/-- The number of tokens after the lookahead. -/
def Cursor.size (s : Cursor) : Nat :=
  s.ahead.length

/-- How a procedure started on a cursor of size `n` ends. -/
inductive Reply (n : Nat) where
  | done (s : Cursor) (h : s.size ≤ n)
  | halt (e : Halt) (s : Cursor) (h : s.size ≤ n)

namespace Reply

/-- The same reply, seen from a larger start. -/
def widen {n m : Nat} (hm : n ≤ m) : Reply n → Reply m
  | done s h => done s (Nat.le_trans h hm)
  | halt e s h => halt e s (Nat.le_trans h hm)

/-- Goes on with `k` after a normal end; a halt passes through. -/
def bind {n : Nat} (r : Reply n) (k : (s : Cursor) → s.size ≤ n → Reply n) : Reply n :=
  match r with
  | done s h => k s h
  | halt e s h => halt e s h

end Reply

namespace Kind

/-- The kinds that may follow a statement: `,`, `}` and the end of input. -/
def endsStatement : Kind → Bool
  | comma | rbrace | eof => true
  | _ => false

/-- The additive operators `+` and `-`. -/
def isAddOp : Kind → Bool
  | add | sub => true
  | _ => false

/-- The multiplicative operators `*`, `/` and `%`. -/
def isMulOp : Kind → Bool
  | mul | div | mod => true
  | _ => false

/-- The kinds that are operands by themselves: integers, floats and identifiers. -/
def isOperand : Kind → Bool
  | int | float | ident => true
  | _ => false

theorem ne_eof_of_endsStatement_eq_false {k : Kind} (h : k.endsStatement = false) : k ≠ eof := by
  rintro rfl; cases h

theorem ne_eof_of_isAddOp {k : Kind} (h : k.isAddOp = true) : k ≠ eof := by
  rintro rfl; cases h

theorem ne_eof_of_isMulOp {k : Kind} (h : k.isMulOp = true) : k ≠ eof := by
  rintro rfl; cases h

theorem ne_eof_of_isOperand {k : Kind} (h : k.isOperand = true) : k ≠ eof := by
  rintro rfl; cases h

end Kind

namespace Cursor

/-- Records an event. -/
def note (s : Cursor) (e : Event) : Cursor :=
  { s with log := s.log.push e }

@[simp] theorem size_note (s : Cursor) (e : Event) : (s.note e).size = s.size := rfl

@[simp] theorem lookahead_note (s : Cursor) (e : Event) : (s.note e).lookahead = s.lookahead := rfl

/-- Pulls the next token.  At the end token the scanner gives it again; `none` when the tokens run
out before the end token. -/
def advance (s : Cursor) : Option Cursor :=
  match s.ahead with
  | t :: rest => some ⟨t, rest, s.log.push .pull⟩
  | [] => if s.lookahead.kind = .eof then some ⟨s.lookahead, [], s.log.push .pull⟩ else none

theorem size_advance_le {s s' : Cursor} (h : s.advance = some s') : s'.size ≤ s.size := by
  unfold advance at h
  split at h
  · cases h; simp [size, *]
  · split at h
    · cases h; simp [size, *]
    · cases h

/-- Moving past a lookahead other than the end token makes the cursor smaller. -/
theorem size_advance_lt {s s' : Cursor} (h : s.advance = some s') (hk : s.lookahead.kind ≠ .eof) :
    s'.size < s.size := by
  unfold advance at h
  split at h
  · cases h; simp [size, *]
  · split at h
    · contradiction
    · cases h

/-- Ends normally. -/
def finish (s : Cursor) : Reply s.size :=
  .done s (Nat.le_refl _)

/-- Halts because the scanner failed. -/
def stop (s : Cursor) : Reply s.size :=
  .halt .unreadable s (Nat.le_refl _)

/-- Halts with a syntax error at the lookahead. -/
def fail (s : Cursor) (p : Problem) : Reply s.size :=
  .halt (.fault ⟨p, s.lookahead⟩) s (Nat.le_refl _)

/-- Requires a lookahead of kind `k` and moves past it. -/
def consume (s : Cursor) (k : Kind) : Reply s.size :=
  if s.lookahead.kind = k then
    match h : s.advance with
    | some s' => .done s' (size_advance_le h)
    | none => s.stop
  else s.fail (.expected k)

end Cursor

end BlockSyntax
