import BlockSyntax.Syntax.Cursor

/-!
# Checking a program

The grammar of the block language, one procedure per nonterminal:

    Program     ::= Block EOF
    Block       ::= '{' StmtList '}'
    StmtList    ::= Stmt { ',' Stmt }
    Stmt        ::= Declaration | Assignment | Block
    Declaration ::= TYPE IDENT
    Assignment  ::= IDENT '=' Exp
    Exp         ::= Term { ('+' | '-') Term }
    Term        ::= Factor { ('*' | '/' | '%') Factor }
    Factor      ::= INT | FLOAT | IDENT | '(' Exp ')'

Each procedure starts with its first token as the lookahead.  A syntax error halts the procedures
up to the nearest statement, which records it and recovers: it skips tokens up to a `,`, a `}` or
the end of input.  A statement that ends normally must also be followed by one of these.  An error
outside every statement (a missing outer `{` or `}`, or tokens after the outer block) is recorded
by the program procedure and ends the check.  A failed read ends the check at once.

The procedures call each other on cursors that never grow.  A call on a cursor of the same size
goes down the order stmtList, stmt, block and exp, term, factor; every other call comes after a
token was consumed.  So `4 * size + rank` falls at every call.
-/

namespace BlockSyntax

namespace Cursor

/-- `Declaration ::= TYPE IDENT`. -/
def declaration (s₀ : Cursor) : Reply s₀.size :=
  let s := s₀.note (.enter .declaration)
  (s.consume .type).bind fun s₁ h₁ =>
    ((s₁.consume .ident).widen h₁).bind fun s₂ h₂ => .done (s₂.note (.leave .declaration)) h₂

/-- Skips tokens up to a `,`, a `}` or the end of input, recording each. -/
def skipToEnd (s : Cursor) : Reply s.size :=
  if hk : s.lookahead.kind.endsStatement then s.finish
  else
    let s₁ := s.note (.skip s.lookahead)
    match ha : s₁.advance with
    | none => s₁.stop
    | some s₂ =>
      have h₂ : s₂.size < s₁.size :=
        size_advance_lt ha (Kind.ne_eof_of_endsStatement_eq_false (by simpa [s₁] using hk))
      s₂.skipToEnd.widen (Nat.le_of_lt h₂)
termination_by s.size
decreasing_by simp +zetaDelta only [Cursor.size_note] at *; omega

mutual

/-- `Exp ::= Term { ('+' | '-') Term }`. -/
def exp (s₀ : Cursor) : Reply s₀.size :=
  let s := s₀.note (.enter .exp)
  (s.term.bind fun s₁ h₁ => s₁.moreTerms.widen h₁).bind fun s₂ h₂ =>
    .done (s₂.note (.leave .exp)) h₂
termination_by 4 * s₀.size + 3
decreasing_by all_goals (try simp +zetaDelta only [Cursor.size_note] at *); omega


/-- The `{ ('+' | '-') Term }` part of an expression. -/
def moreTerms (s : Cursor) : Reply s.size :=
  if hk : s.lookahead.kind.isAddOp then
    match ha : s.advance with
    | none => s.stop
    | some s₁ =>
      have h₁ : s₁.size < s.size := size_advance_lt ha (Kind.ne_eof_of_isAddOp hk)
      (s₁.term.bind fun s₂ h₂ => s₂.moreTerms.widen h₂).widen (Nat.le_of_lt h₁)
  else s.finish
termination_by 4 * s.size
decreasing_by all_goals omega


/-- `Term ::= Factor { ('*' | '/' | '%') Factor }`. -/
def term (s₀ : Cursor) : Reply s₀.size :=
  let s := s₀.note (.enter .term)
  (s.factor.bind fun s₁ h₁ => s₁.moreFactors.widen h₁).bind fun s₂ h₂ =>
    .done (s₂.note (.leave .term)) h₂
termination_by 4 * s₀.size + 2
decreasing_by all_goals (try simp +zetaDelta only [Cursor.size_note] at *); omega


/-- The `{ ('*' | '/' | '%') Factor }` part of a term. -/
def moreFactors (s : Cursor) : Reply s.size :=
  if hk : s.lookahead.kind.isMulOp then
    match ha : s.advance with
    | none => s.stop
    | some s₁ =>
      have h₁ : s₁.size < s.size := size_advance_lt ha (Kind.ne_eof_of_isMulOp hk)
      (s₁.factor.bind fun s₂ h₂ => s₂.moreFactors.widen h₂).widen (Nat.le_of_lt h₁)
  else s.finish
termination_by 4 * s.size
decreasing_by all_goals omega


/-- `Factor ::= INT | FLOAT | IDENT | '(' Exp ')'`. -/
def factor (s₀ : Cursor) : Reply s₀.size :=
  let s := s₀.note (.enter .factor)
  if s.lookahead.kind.isOperand then
    match ha : s.advance with
    | none => s.stop
    | some s₁ => .done (s₁.note (.leave .factor)) (show s₁.size ≤ s.size from size_advance_le ha)
  else if hk : s.lookahead.kind = .lparen then
    match ha : s.advance with
    | none => s.stop
    | some s₁ =>
      have h₁ : s₁.size < s.size := size_advance_lt ha (by simp [hk])
      (s₁.exp.bind fun s₂ h₂ =>
        ((s₂.consume .rparen).widen h₂).bind fun s₃ h₃ =>
          .done (s₃.note (.leave .factor)) h₃).widen (Nat.le_of_lt h₁)
  else s.fail .operand
termination_by 4 * s₀.size + 1
decreasing_by all_goals (try simp +zetaDelta only [Cursor.size_note] at *); omega

end

/-- `Assignment ::= IDENT '=' Exp`. -/
def assignment (s₀ : Cursor) : Reply s₀.size :=
  let s := s₀.note (.enter .assignment)
  if hk : s.lookahead.kind = .ident then
    match ha : s.advance with
    | none => s.stop
    | some s₁ =>
      have h₁ : s₁.size < s.size := size_advance_lt ha (by simp [hk])
      ((s₁.consume .assign).bind fun s₂ h₂ =>
        (s₂.exp.widen h₂).bind fun s₃ h₃ =>
          .done (s₃.note (.leave .assignment)) h₃).widen (Nat.le_of_lt h₁)
  else s.fail (.expected .ident)


mutual

/-- `Block ::= '{' StmtList '}'`. -/
def block (s₀ : Cursor) : Reply s₀.size :=
  let s := s₀.note (.enter .block)
  if hk : s.lookahead.kind = .lbrace then
    match ha : s.advance with
    | none => s.stop
    | some s₁ =>
      have h₁ : s₁.size < s.size := size_advance_lt ha (by simp [hk])
      (s₁.stmtList.bind fun s₂ h₂ =>
        ((s₂.consume .rbrace).widen h₂).bind fun s₃ h₃ =>
          .done (s₃.note (.leave .block)) h₃).widen (Nat.le_of_lt h₁)
  else s.fail (.expected .lbrace)
termination_by 4 * s₀.size + 1
decreasing_by all_goals (try simp +zetaDelta only [Cursor.size_note] at *); omega


/-- `StmtList ::= Stmt { ',' Stmt }`. -/
def stmtList (s₀ : Cursor) : Reply s₀.size :=
  let s := s₀.note (.enter .stmtList)
  (s.stmt.bind fun s₁ h₁ => s₁.moreStmts.widen h₁).bind fun s₂ h₂ =>
    .done (s₂.note (.leave .stmtList)) h₂
termination_by 4 * s₀.size + 3
decreasing_by all_goals (try simp +zetaDelta only [Cursor.size_note] at *); omega


/-- The `{ ',' Stmt }` part of a statement list. -/
def moreStmts (s : Cursor) : Reply s.size :=
  if hk : s.lookahead.kind = .comma then
    match ha : s.advance with
    | none => s.stop
    | some s₁ =>
      have h₁ : s₁.size < s.size := size_advance_lt ha (by simp [hk])
      (s₁.stmt.bind fun s₂ h₂ => s₂.moreStmts.widen h₂).widen (Nat.le_of_lt h₁)
  else s.finish
termination_by 4 * s.size
decreasing_by all_goals omega


/-- `Stmt ::= Declaration | Assignment | Block`, followed by `,`, `}` or the end of input.  A syntax
error inside is recorded here, and the tokens up to the statement's end are skipped. -/
def stmt (s₀ : Cursor) : Reply s₀.size :=
  let s := s₀.note (.enter .stmt)
  let body : Reply s.size :=
    match s.lookahead.kind with
    | .type => s.declaration
    | .ident => s.assignment
    | .lbrace => s.block
    | _ => s.fail .statementStart
  let checked : Reply s.size := body.bind fun s₁ h₁ =>
    if s₁.lookahead.kind.endsStatement then .done s₁ h₁
    else .halt (.fault ⟨.statementEnd, s₁.lookahead⟩) s₁ h₁
  match checked with
  | .done s₁ h₁ => .done (s₁.note (.leave .stmt)) h₁
  | .halt .unreadable s₁ h₁ => .halt .unreadable s₁ h₁
  | .halt (.fault e) s₁ h₁ =>
    ((s₁.note (.report e)).skipToEnd.widen h₁).bind fun s₂ h₂ => .done (s₂.note (.leave .stmt)) h₂
termination_by 4 * s₀.size + 2
decreasing_by all_goals (try simp +zetaDelta only [Cursor.size_note] at *); omega


end

end Cursor

/-- How a check ends. -/
inductive Verdict where
  /-- The program procedure returned; the cursor holds the last lookahead and the events. -/
  | finished (s : Cursor)
  /-- A read failed; the events up to the failure. -/
  | unreadable (log : Array Event)
  deriving Repr

/-- `Program ::= Block EOF`, on the cursor whose lookahead is the first token. -/
def Cursor.program (s₀ : Cursor) : Verdict :=
  let s := s₀.note (.enter .program)
  match s.block.bind fun s₁ h₁ => (s₁.consume .eof).widen h₁ with
  | .done s₁ _ => .finished (s₁.note (.leave .program))
  | .halt (.fault e) s₁ _ => .finished ((s₁.note (.report e)).note (.leave .program))
  | .halt .unreadable s₁ _ => .unreadable s₁.log

/-- Checks the tokens a scanner gave, in order: up to the end token, or up to a failed read. -/
def check (tokens : List Token) : Verdict :=
  match tokens with
  | [] => .unreadable #[]
  | t :: rest => Cursor.program ⟨t, rest, #[.pull]⟩

namespace Verdict

/-- The events of a check. -/
def log : Verdict → Array Event
  | finished s => s.log
  | unreadable log => log

/-- The syntax errors recorded, in order. -/
def errors (v : Verdict) : List SyntaxError :=
  v.log.toList.filterMap fun
    | .report e => some e
    | _ => none

/-- How many tokens the check pulled from the scanner. -/
def pulls (v : Verdict) : Nat :=
  v.log.toList.countP (· == .pull)

end Verdict

end BlockSyntax
