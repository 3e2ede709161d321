import BlockSyntax.Proofs.ExpectedKinds
import BlockSyntax.Proofs.ExpressionRules

/-! # Where the procedures of statements stop

A statement catches every syntax error raised inside it: it records the error and skips to the
next `,`, `}` or end token, and it tests that a statement it read normally is followed by one of
these.  So whatever the tokens and the events before, a statement ends on a token that ends a
statement, and it halts only when the tokens run out (`stmt_ends`).  This needs nothing of the
block a statement may be, since the block's faults are caught like any other.

The statement list then ends on a `}` or the end token (`stmtList_ends`), and a block that has
read its `{` halts on a fault only at the end token, for want of its `}` (`block_faults_at_end`).
This is where recovery resynchronises, and what the order and the count of the errors rest on.
-/

namespace BlockSyntax

namespace Cursor

/-- **A statement catches its errors.**  From any cursor, a statement ends on a `,`, a `}` or the
end token, and halts only when the tokens run out. -/
theorem stmt_ends (s : Cursor) :
    s.stmt.Holds (fun s' => s'.lookahead.kind.endsStatement = true) fun h _ => h = .unreadable := by
  -- every error goes to recovery, which stops at a token that ends a statement
  have hrecover : ∀ s₁ : Cursor, s₁.skipToEnd.Holds
      (fun s₂ => (s₂.note (.leave .stmt)).lookahead.kind.endsStatement = true)
      fun h _ => h = .unreadable :=
    fun s₁ => (skipToEnd_spec s₁).imp (fun _ hd => hd.2.1) fun _ _ hh => hh.1
  exact holds_stmt (B := fun _ => True) (F := fun _ _ => True) (fun _ => Reply.holds_true _)
    (fun _ => Reply.holds_true _) (fun _ => Reply.holds_true _) (fun _ _ _ => hrecover _)
    (fun _ _ he => he) (fun _ _ _ => hrecover _) (fun _ _ => rfl) fun _ _ _ => hrecover _

/-- The statements after the first, started where a statement ended, end on a `}` or the end
token, and halt only when the tokens run out. -/
theorem moreStmts_ends (s : Cursor) (hs : s.lookahead.kind.endsStatement = true) :
    s.moreStmts.Holds (fun s' => s'.lookahead.kind = .rbrace ∨ s'.lookahead.kind = .eof)
      fun h _ => h = .unreadable := by
  -- on the size of the cursor, which the `,` before each statement lowers
  induction s using (measure Cursor.size).wf.induction with
  | h s ih =>
    refine holds_moreStmts (fun hk s₁ ha => ?_) (fun _ _ => rfl) fun hk => ?_
    · have hlt : s₁.size < s.size := size_advance_lt ha (by rw [hk]; decide)
      refine ((stmt_ends s₁).both (Reply.holds_size _)).imp (fun s₂ h₂ => ?_) fun _ _ h => h.1
      exact ih s₂ (Nat.lt_of_le_of_lt h₂.2 hlt) h₂.1
    · rcases Kind.endsStatement_iff.mp hs with h | h | h
      · exact absurd h hk
      · exact .inl h
      · exact .inr h

/-- **A statement list ends on a `}` or the end token**, from any cursor, and halts only when the
tokens run out. -/
theorem stmtList_ends (s : Cursor) :
    s.stmtList.Holds (fun s' => s'.lookahead.kind = .rbrace ∨ s'.lookahead.kind = .eof)
      fun h _ => h = .unreadable :=
  holds_stmtList ((stmt_ends _).imp (fun s₁ h₁ => moreStmts_ends s₁ h₁) fun _ _ h => h)

/-- **A block that has read its `{` faults only at the end token**, for want of its `}`. -/
theorem block_faults_at_end (s : Cursor) (hk : s.lookahead.kind = .lbrace) :
    s.block.Holds (fun _ => True) fun h s' =>
      h = .unreadable ∨ (h = .fault ⟨.expected .rbrace, s'.lookahead⟩ ∧ s'.lookahead.kind = .eof) := by
  refine holds_block (fun _ s₁ _ => ?_) (fun _ _ => .inl rfl) fun hne => absurd hk hne
  refine (stmtList_ends s₁).imp (fun s₂ h₂ => ?_) fun _ _ h => .inl h
  exact holds_consume (fun _ _ _ => trivial) (fun _ => .inl rfl) fun hne =>
    .inr ⟨rfl, h₂.resolve_left hne⟩

end Cursor

/-- **Recovery resynchronises at the end of a statement.**  Whatever the tokens and the events
before: a statement never lets a syntax error out, and ends on a `,`, a `}` or the end token, or
halts because the tokens ran out; a statement list ends on a `}` or the end token, or halts
because the tokens ran out; and a block that has read its `{` lets out only the missing `}`,
found at the end token. -/
theorem statements_resynchronise :
    (∀ s : Cursor, s.stmt.Holds
      (fun s' => s'.lookahead.kind = .comma ∨ s'.lookahead.kind = .rbrace ∨ s'.lookahead.kind = .eof)
      fun h _ => h = .unreadable) ∧
    (∀ s : Cursor, s.stmtList.Holds
      (fun s' => s'.lookahead.kind = .rbrace ∨ s'.lookahead.kind = .eof)
      fun h _ => h = .unreadable) ∧
    (∀ s : Cursor, s.lookahead.kind = .lbrace → s.block.Holds (fun _ => True)
      fun h _ => ∀ e, h = .fault e → e.token.kind = .eof ∧ e.problem = .expected .rbrace) := by
  refine ⟨fun s => (Cursor.stmt_ends s).imp (fun _ h => Kind.endsStatement_iff.mp h)
    fun _ _ h => h, Cursor.stmtList_ends, fun s hk => ?_⟩
  refine (Cursor.block_faults_at_end s hk).imp (fun _ h => h) fun h s' hh e he => ?_
  rcases hh with rfl | ⟨rfl, hend⟩
  · cases he
  · cases he
    exact ⟨hend, rfl⟩

end BlockSyntax
