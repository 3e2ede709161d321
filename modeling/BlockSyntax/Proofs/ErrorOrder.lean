import BlockSyntax.Proofs.Acceptance
import BlockSyntax.Proofs.ReaderProgress

/-! # The order of the syntax errors

The checker records its errors in the order of their tokens, and never two at one token but the
end token.  A statement records an error at the token where it went wrong and skips to the
statement's end; the next error is then at a later token, unless the lookahead has not moved.  It
has not moved only at a `,`, a `}` or the end token, and after a `,` or a `}` the statement list
and the block read on without an error.  At the end token every block still open adds a missing
`}` of its own, so the end token gets at most one error more than there are blocks.

`Spread s₀ s q A B` says how the errors recorded from `s₀` to `s` lie against the tokens `q`
read in between: those of `A` at tokens of `q`, as an ordered sublist of them, and those of `B`
at the lookahead of `s`, of which only the end token holds more than one.  Reading a token moves
the errors at it into `A` (`Spread.advance`); recording an error at the lookahead is allowed where
`B` is empty, or at the end token for a missing `}` (`Spread.report`).  The procedures of
statements keep the spread, started from a lookahead that holds no error yet (`Fresh`), and at
the end token `B` grows by at most one more than the blocks they open (`statement_spread`).
`errors_in_token_order` is the statement for the check of a text.
-/

namespace BlockSyntax

open scoped List

/-! ### Tokens of a text are told apart -/

/-- Tokens placed at strictly growing offsets are pairwise distinct: each starts at the line and
column of its own offset. -/
theorem Placed.nodup {s : List Char} {k : Nat} {toks : List Token} {offs : List Nat}
    (h : Placed s k toks offs) : toks.Nodup := by
  -- every offset lies within the text, whose end is the last one
  have hle : ∀ o ∈ offs, o ≤ s.length := by
    obtain ⟨init, hinit⟩ := List.getLast?_eq_some_iff.mp h.last
    have hinc := h.increasing
    rw [hinit, List.pairwise_append] at hinc
    intro o ho
    rw [hinit, List.mem_append, List.mem_singleton] at ho
    rcases ho with ho | rfl
    · exact Nat.le_of_lt (hinc.2.2 o ho s.length (List.mem_singleton_self _))
    · exact Nat.le_refl _
  have hzip : (toks.zip offs).Pairwise fun p q => p.2 < q.2 := by
    rw [← List.pairwise_map (f := Prod.snd), List.map_snd_zip (Nat.le_of_eq h.length_eq)]
    exact h.increasing
  have hne : (toks.zip offs).Pairwise fun p q => p.1 ≠ q.1 := by
    refine hzip.imp_of_mem fun {p q} hp hq hlt heq => ?_
    have hpos : lineCol s p.2 = lineCol s q.2 := by
      rw [← h.start p hp, ← h.start q hq, heq]
    have := lineCol_injective (hle _ (List.of_mem_zip hp).2) (hle _ (List.of_mem_zip hq).2) hpos
    omega
  have hfst : (toks.zip offs).map Prod.fst = toks := List.map_fst_zip (Nat.le_of_eq h.length_eq.symm)
  rw [List.Nodup, ← hfst, List.pairwise_map]
  exact hne

/-- No two tokens of a text are equal. -/
theorem tokens_nodup (s : String) : (Reader.ofFeed (Feed.ofString s)).tape.tokens.Nodup := by
  obtain ⟨offs, h⟩ := tokens_placed s
  exact h.nodup

namespace Cursor

/-! ### Errors against the tokens read -/

/-- The errors `A ++ B` recorded from `s₀` to `s`, against the tokens `q` read in between: those
of `A` lie at tokens of `q`, in order and never two at one token, and those of `B` at the
lookahead.  Only the end token holds more than one error of `B`, and every one there after the
first is a missing `}`. -/
structure Spread (s₀ s : Cursor) (q : List Token) (A B : List SyntaxError) : Prop where
  tokens : s₀.tokens = q ++ s.tokens
  errors : s.errors = s₀.errors ++ (A ++ B)
  read : A.map SyntaxError.token <+ q
  at_lookahead : ∀ e ∈ B, e.token = s.lookahead
  single : s.lookahead.kind ≠ .eof → B.length ≤ 1
  tail : ∀ e ∈ B.tail, e.problem = .expected .rbrace

/-- At most one error at the token `t` lies at a token of any tokens that start with `t`. -/
theorem map_token_sublist {B : List SyntaxError} {t : Token} (hB : ∀ e ∈ B, e.token = t)
    (hlen : B.length ≤ 1) (r : List Token) : B.map SyntaxError.token <+ t :: r := by
  rcases B with _ | ⟨e, _ | ⟨e', B⟩⟩
  · exact List.nil_sublist _
  · rw [List.map_singleton, hB e (List.mem_singleton_self e)]
    exact (List.nil_sublist r).cons_cons t
  · simp at hlen

namespace Spread

variable {s₀ s s' : Cursor} {q : List Token} {A B : List SyntaxError}

theorem refl (s₀ : Cursor) : Spread s₀ s₀ [] [] [] where
  tokens := rfl
  errors := by simp
  read := List.Sublist.slnil
  at_lookahead := by simp
  single := by simp
  tail := by simp

/-- An event that records no error keeps the spread. -/
theorem note (h : Spread s₀ s q A B) {x : Event} (he : x.error? = none) :
    Spread s₀ (s.note x) q A B where
  tokens := h.tokens
  errors := by simp [he, h.errors]
  read := h.read
  at_lookahead := h.at_lookahead
  single := h.single
  tail := h.tail

/-- Recording an error at the lookahead, where none is yet, or at the end token for a missing
`}`. -/
theorem report (h : Spread s₀ s q A B) {e : SyntaxError} (ht : e.token = s.lookahead)
    (hfresh : B = [] ∨ (s.lookahead.kind = .eof ∧ e.problem = .expected .rbrace)) :
    Spread s₀ (s.note (.report e)) q A (B ++ [e]) where
  tokens := h.tokens
  errors := by simp [h.errors, Event.error?]
  read := h.read
  at_lookahead := by
    intro x hx
    rcases List.mem_append.mp hx with hx | hx
    · exact h.at_lookahead x hx
    · rw [List.mem_singleton.mp hx]
      exact ht
  single := by
    intro hk
    rcases hfresh with rfl | ⟨hk', -⟩
    · simp
    · exact absurd hk' hk
  tail := by
    rcases hfresh with rfl | ⟨-, hp⟩
    · simp
    · intro x hx
      cases B with
      | nil => simp at hx
      | cons b B =>
        rw [List.cons_append, List.tail_cons, List.mem_append, List.mem_singleton] at hx
        rcases hx with hx | rfl
        · exact h.tail x hx
        · exact hp

/-- A stretch that records no error and reads nothing keeps the spread. -/
theorem stay (h : Spread s₀ s q A B) (hq : s.Quiet s') (hr : s.tokens = s'.tokens) :
    Spread s₀ s' q A B := by
  have hl : s.lookahead = s'.lookahead := (List.cons.inj hr).1
  exact ⟨hr ▸ h.tokens, by rw [hq.errors, h.errors], h.read, hl ▸ h.at_lookahead, hl ▸ h.single,
    h.tail⟩

/-- A stretch that records no error and reads some tokens `r`: the errors at the lookahead are
now at the first token read. -/
theorem move (h : Spread s₀ s q A B) (hq : s.Quiet s') {r : List Token}
    (hr : s.tokens = r ++ s'.tokens) (hne : r ≠ []) (hB : B.length ≤ 1) :
    Spread s₀ s' (q ++ r) (A ++ B) [] where
  tokens := by rw [h.tokens, hr, List.append_assoc]
  errors := by rw [hq.errors, h.errors, List.append_nil]
  read := by
    obtain ⟨t, r', rfl⟩ := List.exists_cons_of_ne_nil hne
    have ht : s.lookahead = t := (List.cons.inj hr).1
    rw [List.map_append]
    exact h.read.append (map_token_sublist (fun e he => ht ▸ h.at_lookahead e he) hB r')
  at_lookahead := by simp
  single := by simp
  tail := by simp

/-- Moving past a lookahead other than the end token reads it, with the errors at it. -/
theorem advance (h : Spread s₀ s q A B) (ha : s.advance = some s') (hk : s.lookahead.kind ≠ .eof) :
    Spread s₀ s' (q ++ [s.lookahead]) (A ++ B) [] :=
  h.move (Quiet.advance ha) (tokens_of_advance ha hk) (List.cons_ne_nil _ _) (h.single hk)

/-- Two spreads from one start: the later one read more. -/
theorem size_le {r : List Token} {A' B' : List SyntaxError} (h : Spread s₀ s q A B)
    (h' : Spread s₀ s' (q ++ r) A' B') : s'.size ≤ s.size := by
  have hs : s.tokens = r ++ s'.tokens := by
    have := h.tokens.symm.trans h'.tokens
    rw [List.append_assoc] at this
    exact List.append_cancel_left this
  have hlen := congrArg List.length hs
  simp only [Cursor.tokens, List.length_cons, List.length_append] at hlen
  simp only [Cursor.size]
  omega

end Spread

/-! ### What the procedures of statements keep -/

/-- The errors from `s₀` on lie against the tokens `q` read since, and the lookahead of `s`
holds none yet. -/
def Fresh (s₀ : Cursor) (q : List Token) (s : Cursor) : Prop :=
  ∃ A, Spread s₀ s q A []

/-- A block ended normally on `s`, after the tokens `q` and more: it read its closing `}`, so its
lookahead holds no error. -/
def BlockDone (s₀ : Cursor) (q : List Token) (s : Cursor) : Prop :=
  ∃ r, Fresh s₀ (q ++ r) s

/-- A procedure halted on `s`, after the tokens `q` and `r`, with a fault at the lookahead: the
lookahead holds no error yet, or it is the end token and the fault is a missing `}`, with no more
errors there than the blocks opened in `r`. -/
def Faulted (s₀ : Cursor) (q : List Token) : Halt → Cursor → Prop
  | .unreadable, _ => True
  | .fault e, s => ∃ r A B, Spread s₀ s (q ++ r) A B ∧ e.token = s.lookahead ∧
      (B = [] ∨ (s.lookahead.kind = .eof ∧ e.problem = .expected .rbrace)) ∧
      B.length ≤ r.countP (·.kind == .lbrace)

/-- A statement ended on `s`, after the tokens `q` and `r`: the errors at its lookahead, if any,
are at a token that ends a statement, and there are at most one more of them than the blocks
opened in `r`. -/
def StmtSpread (s₀ : Cursor) (q : List Token) (s : Cursor) : Prop :=
  ∃ r A B, Spread s₀ s (q ++ r) A B ∧ (B ≠ [] → s.lookahead.kind.endsStatement = true) ∧
    B.length ≤ 1 + r.countP (·.kind == .lbrace)

/-- A statement list ended on `s`, after the tokens `q` and `r`: as a statement, and the errors
at its lookahead, if any, are at a `}` or the end token. -/
def ListSpread (s₀ : Cursor) (q : List Token) (s : Cursor) : Prop :=
  ∃ r A B, Spread s₀ s (q ++ r) A B ∧
    (B ≠ [] → s.lookahead.kind = .rbrace ∨ s.lookahead.kind = .eof) ∧
    B.length ≤ 1 + r.countP (·.kind == .lbrace)

/-- The procedures of statement lists and statements halt only for want of tokens. -/
def Unread (h : Halt) (_ : Cursor) : Prop :=
  h = .unreadable

variable {s₀ s s' : Cursor} {q : List Token}

theorem Fresh.refl (s₀ : Cursor) : Fresh s₀ [] s₀ :=
  ⟨[], Spread.refl s₀⟩

theorem Fresh.note (h : Fresh s₀ q s) {x : Event} (he : x.error? = none) :
    Fresh s₀ q (s.note x) := by
  obtain ⟨A, h⟩ := h
  exact ⟨A, h.note he⟩

/-- A stretch that records no error. -/
theorem Fresh.quiet (h : Fresh s₀ q s) (hq : s.Quiet s') : BlockDone s₀ q s' := by
  obtain ⟨A, h⟩ := h
  obtain ⟨r, hr⟩ := hq.consumed
  cases r with
  | nil => exact ⟨[], A, by simpa using h.stay hq hr⟩
  | cons t r => exact ⟨t :: r, A, by simpa using h.move hq hr (List.cons_ne_nil _ _) (by simp)⟩

/-- A fault at a lookahead that holds no error. -/
theorem Fresh.faulted {r : List Token} (h : Fresh s₀ (q ++ r) s) {e : SyntaxError}
    (ht : e.token = s.lookahead) : Faulted s₀ q (.fault e) s := by
  obtain ⟨A, h⟩ := h
  exact ⟨r, A, [], h, ht, .inl rfl, by simp⟩

theorem ListSpread.note (h : ListSpread s₀ q s) {x : Event} (he : x.error? = none) :
    ListSpread s₀ q (s.note x) := by
  obtain ⟨r, A, B, h, hend, hcount⟩ := h
  exact ⟨r, A, B, h.note he, hend, hcount⟩

/-- The same ending, seen from an earlier point of reading. -/
theorem ListSpread.of_append {u : List Token} (h : ListSpread s₀ (q ++ u) s) :
    ListSpread s₀ q s := by
  obtain ⟨r, A, B, h, hend, hcount⟩ := h
  refine ⟨u ++ r, A, B, by rwa [← List.append_assoc], hend, ?_⟩
  rw [List.countP_append]
  omega

/-- The body of a statement that records no error: a declaration or an assignment. -/
theorem Fresh.body (h : Fresh s₀ q s) {sym : Symbol} {r : Reply s.size}
    (hr : r.Holds (BodyDone s) (ExpHalt sym s)) : r.Holds (BlockDone s₀ q) (Faulted s₀ q) := by
  refine hr.imp (fun s' hd => h.quiet hd.1) fun h' s' hh => ?_
  cases h' with
  | unreadable => trivial
  | fault e =>
    obtain ⟨r, hr⟩ := h.quiet hh.1
    exact hr.faulted hh.2.1

/-- **Recovery.**  Recording a fault found at `s` and skipping to the end of the statement ends
the statement: either nothing is skipped and the errors stay at a token that ends a statement,
or the lookahead is skipped with its one error. -/
theorem recover_spread {e : SyntaxError} (hf : Faulted s₀ q (.fault e) s) :
    ((s.note (.report e)).skipToEnd).Holds (fun s' => StmtSpread s₀ q (s'.note (.leave .stmt)))
      Unread := by
  obtain ⟨r, A, B, hs, ht, hfresh, hcount⟩ := hf
  have hs₁ := hs.report ht hfresh
  refine (skipToEnd_spec _).imp (fun s' hd => ?_) fun _ _ hh => hh.1
  obtain ⟨hquiet, hend, u, hu, hnot⟩ := hd
  cases u with
  | nil =>
    refine ⟨r, A, B ++ [e], (hs₁.stay hquiet (by simpa using hu)).note rfl, fun _ => hend, ?_⟩
    rw [List.length_append, List.length_singleton]
    omega
  | cons t u =>
    -- the lookahead was skipped, so it ends no statement and is no end token
    have hkt : t.kind.endsStatement = false := hnot t (List.mem_cons_self ..)
    have htl : t = s.lookahead := (List.cons.inj hu).1.symm
    have hk : s.lookahead.kind ≠ .eof := by
      rw [← htl]
      exact Kind.ne_eof_of_endsStatement_eq_false hkt
    obtain rfl : B = [] := hfresh.resolve_right fun h => hk h.1
    refine ⟨r ++ t :: u, A ++ [e], [], ?_, fun h => absurd rfl h, by simp⟩
    have := (hs₁.move hquiet hu (List.cons_ne_nil _ _) (by simp)).note (x := .leave .stmt) rfl
    simpa [List.append_assoc] using this

/-- **A block**, given its statement list. -/
theorem block_spread_step (s : Cursor)
    (ih : s.lookahead.kind = .lbrace → ∀ s₁, (s.note (.enter .block)).advance = some s₁ →
      ∀ s₀ q, Fresh s₀ q s₁ → s₁.stmtList.Holds (ListSpread s₀ q) Unread)
    (s₀ : Cursor) (q : List Token) (hf : Fresh s₀ q s) :
    s.block.Holds (BlockDone s₀ q) (Faulted s₀ q) := by
  have hf₁ : Fresh s₀ (q ++ []) (s.note (.enter .block)) := by simpa using hf.note rfl
  refine holds_block (fun hk s₁ ha => ?_) (fun _ _ => trivial) fun _ => hf₁.faulted rfl
  obtain ⟨A, h₀⟩ := hf₁
  have h₁ := h₀.advance ha (by rw [lookahead_note, hk]; decide)
  rw [List.append_nil] at h₁
  refine (ih hk s₁ ha s₀ _ ⟨_, h₁⟩).imp (fun s₂ hl => ?_) fun _ _ hh => by cases hh; trivial
  obtain ⟨r, A₂, B₂, h₂, hend, hcount⟩ := hl
  refine holds_consume (fun s₃ hk₂ ha₃ => ?_) (fun _ => trivial) fun hne => ?_
  · -- the closing `}` is read, with the error at it, if any
    have h₃ := (h₂.advance ha₃ (by rw [hk₂]; decide)).note (x := .leave .block) rfl
    exact ⟨[s.lookahead] ++ r ++ [s₂.lookahead], A₂ ++ B₂, by simpa [List.append_assoc] using h₃⟩
  · -- a missing `}`: the errors at the lookahead can only be at the end token
    refine ⟨[s.lookahead] ++ r, A₂, B₂, by simpa [List.append_assoc] using h₂, rfl, ?_, ?_⟩
    · by_cases hB : B₂ = []
      · exact .inl hB
      · exact .inr ⟨(hend hB).resolve_left hne, rfl⟩
    · simp only [List.countP_append, List.countP_singleton, hk]
      simp only [beq_self_eq_true, if_true]
      omega

/-- **A statement list**, given its first statement and the statements after it. -/
theorem stmtList_spread_step (s : Cursor)
    (ihs : ∀ s₀ q, Fresh s₀ q (s.note (.enter .stmtList)) →
      (s.note (.enter .stmtList)).stmt.Holds (StmtSpread s₀ q) Unread)
    (ihm : ∀ s₁ : Cursor, s₁.size ≤ (s.note (.enter .stmtList)).size →
      ∀ s₀ q, StmtSpread s₀ q s₁ → s₁.moreStmts.Holds (ListSpread s₀ q) Unread)
    (s₀ : Cursor) (q : List Token) (hf : Fresh s₀ q s) :
    s.stmtList.Holds (ListSpread s₀ q) Unread := by
  have hf₁ := hf.note (x := .enter .stmtList) rfl
  refine holds_stmtList ((ihs s₀ q hf₁).imp (fun s₁ hd => ?_) fun _ _ hh => hh)
  have hsize : s₁.size ≤ (s.note (.enter .stmtList)).size := by
    obtain ⟨A, h⟩ := hf₁
    obtain ⟨r, A₁, B₁, h₁, -⟩ := hd
    exact h.size_le h₁
  exact (ihm s₁ hsize s₀ q hd).imp (fun s₂ hl => hl.note rfl) fun _ _ hh => hh

/-- **The statements after the first**, given the next statement and those after it. -/
theorem moreStmts_spread_step (s : Cursor)
    (ihs : s.lookahead.kind = .comma → ∀ s₁, s.advance = some s₁ →
      ∀ s₀ q, Fresh s₀ q s₁ → s₁.stmt.Holds (StmtSpread s₀ q) Unread)
    (ihm : s.lookahead.kind = .comma → ∀ s₁, s.advance = some s₁ → ∀ s₂ : Cursor,
      s₂.size ≤ s₁.size → ∀ s₀ q, StmtSpread s₀ q s₂ → s₂.moreStmts.Holds (ListSpread s₀ q) Unread)
    (s₀ : Cursor) (q : List Token) (hs : StmtSpread s₀ q s) :
    s.moreStmts.Holds (ListSpread s₀ q) Unread := by
  obtain ⟨r, A, B, h, hend, hcount⟩ := hs
  refine holds_moreStmts (fun hk s₁ ha => ?_) (fun _ _ => rfl) fun hk => ?_
  · -- the `,` is read with the error at it, if any, and the next statement starts fresh
    have h₁ := h.advance ha (by rw [hk]; decide)
    refine (ihs hk s₁ ha s₀ _ ⟨_, h₁⟩).imp (fun s₂ hd => ?_) fun _ _ hh => hh
    have hsize : s₂.size ≤ s₁.size := by
      obtain ⟨r₂, A₂, B₂, h₂, -⟩ := hd
      exact h₁.size_le h₂
    refine (ihm hk s₁ ha s₂ hsize s₀ _ hd).imp (fun s₃ hl => ?_) fun _ _ hh => hh
    exact ListSpread.of_append (u := r ++ [s.lookahead]) (by simpa [List.append_assoc] using hl)
  · -- the list ends where a statement ended, on no `,`
    refine ⟨r, A, B, h, fun hB => ?_, hcount⟩
    have := Kind.endsStatement_iff.mp (hend hB)
    rcases this with h' | h' | h'
    · exact absurd h' hk
    · exact .inl h'
    · exact .inr h'

/-- **A statement**, given the block it may be. -/
theorem stmt_spread_step (s : Cursor)
    (ih : ∀ s₀ q, Fresh s₀ q (s.note (.enter .stmt)) →
      (s.note (.enter .stmt)).block.Holds (BlockDone s₀ q) (Faulted s₀ q))
    (s₀ : Cursor) (q : List Token) (hf : Fresh s₀ q s) :
    s.stmt.Holds (StmtSpread s₀ q) Unread := by
  have hf₁ := hf.note (x := .enter .stmt) rfl
  refine holds_stmt (B := BlockDone s₀ q) (F := Faulted s₀ q)
    (fun hk => hf₁.body (declaration_spec _ hk)) (fun hk => hf₁.body (assignment_spec _ hk))
    (fun _ => ih s₀ q hf₁) (fun _ _ _ => recover_spread ((by simpa using hf₁ : Fresh s₀ (q ++ []) _).faulted rfl))
    (fun s₁ hd _ => ?_) (fun s₁ hd _ => ?_) (fun _ _ => rfl) fun e s₁ hh => recover_spread hh
  · -- a body that ends where a statement ends leaves no error at the lookahead
    obtain ⟨r, A, h⟩ := hd
    exact ⟨r, A, [], h.note rfl, fun h => absurd rfl h, by simp⟩
  · obtain ⟨r, hr⟩ := hd
    exact recover_spread (hr.faulted rfl)

/-- **How the procedures of statements spread their errors.**  Started on a lookahead that holds
no error yet, a block reads its `}` and leaves it so, or halts on a fault that is new at its
lookahead, or a missing `}` at the end token; a statement, a statement list and the statements
after the first leave errors at their lookahead only at a token that ends a statement, at most
one more than the blocks they opened, and halt only for want of tokens. -/
theorem statement_spread :
    (∀ s : Cursor, ∀ s₀ q, Fresh s₀ q s → s.block.Holds (BlockDone s₀ q) (Faulted s₀ q)) ∧
    (∀ s : Cursor, ∀ s₀ q, Fresh s₀ q s → s.stmtList.Holds (ListSpread s₀ q) Unread) ∧
    (∀ s : Cursor, ∀ s₀ q, StmtSpread s₀ q s → s.moreStmts.Holds (ListSpread s₀ q) Unread) ∧
    (∀ s : Cursor, ∀ s₀ q, Fresh s₀ q s → s.stmt.Holds (StmtSpread s₀ q) Unread) := by
  apply Cursor.block.mutual_induct
    (fun s => ∀ s₀ q, Fresh s₀ q s → s.block.Holds (BlockDone s₀ q) (Faulted s₀ q))
    (fun s => ∀ s₀ q, Fresh s₀ q s → s.stmtList.Holds (ListSpread s₀ q) Unread)
    (fun s => ∀ s₀ q, StmtSpread s₀ q s → s.moreStmts.Holds (ListSpread s₀ q) Unread)
    (fun s => ∀ s₀ q, Fresh s₀ q s → s.stmt.Holds (StmtSpread s₀ q) Unread)
  -- each case passes its hypotheses on to the step lemma of its procedure
  case case1 =>
    intro s; dsimp only; intro hk ha
    exact block_spread_step s fun _ s₁ ha₁ => by cases ha.symm.trans ha₁
  case case2 =>
    intro s; dsimp only; intro hk s₂ ha _ ih
    exact block_spread_step s fun _ s₁ ha₁ => by cases ha.symm.trans ha₁; exact ih
  case case3 =>
    intro s; dsimp only; intro hk
    exact block_spread_step s fun hk' => absurd hk' hk
  case case4 =>
    intro s; dsimp only; intro ihs ihm
    exact stmtList_spread_step s ihs ihm
  case case5 =>
    intro s hk ha
    exact moreStmts_spread_step s (fun _ s₁ ha₁ => by cases ha.symm.trans ha₁)
      fun _ s₁ ha₁ => by cases ha.symm.trans ha₁
  case case6 =>
    intro s hk s₂ ha _ ihs ihm
    exact moreStmts_spread_step s (fun _ s₁ ha₁ => by cases ha.symm.trans ha₁; exact ihs)
      fun _ s₁ ha₁ => by cases ha.symm.trans ha₁; exact ihm
  case case7 =>
    intro s hk
    exact moreStmts_spread_step s (fun hk' => absurd hk' hk) fun hk' => absurd hk' hk
  case case8 =>
    intro s; dsimp only; intro _ _ _ ih
    exact stmt_spread_step s ih
  case case9 =>
    intro s; dsimp only; intro _ _ _ ih
    exact stmt_spread_step s ih
  case case10 =>
    intro s; dsimp only; intro _ _ _ _ ih
    exact stmt_spread_step s ih

end Cursor

/-! ### The errors of a check -/

/-- The errors `es` of a check of the tokens `toks` lie in the order of their tokens: first those
at tokens other than the end token, at increasing positions of `toks`, then those at the end
token, at most one more than there are `{` in `toks`, every one after the first a missing `}`. -/
def InTokenOrder (toks : List Token) (es : List SyntaxError) : Prop :=
  ∃ A B, es = A ++ B ∧ A.map SyntaxError.token <+ toks ∧ (∀ e ∈ A, e.token.kind ≠ .eof) ∧
    (∀ e ∈ B, e.token ∈ toks ∧ e.token.kind = .eof) ∧
    B.length ≤ 1 + toks.countP (·.kind == .lbrace) ∧ ∀ e ∈ B.tail, e.problem = .expected .rbrace

/-- On terminated tokens, the tokens before a non-empty rest hold no end token. -/
theorem Terminated.not_eof_of_append {toks r u : List Token} (ht : Terminated toks)
    (h : toks = r ++ u) (hu : u ≠ []) : ∀ t ∈ r, t.kind ≠ .eof := by
  obtain ⟨p, t, rfl, -, hno⟩ := ht
  have hpre : r <+: p := by
    refine List.prefix_of_prefix_length_le ⟨u, h.symm⟩ (List.prefix_append p [t]) ?_
    have hlen := congrArg List.length h
    have hpos := List.length_pos_iff.mpr hu
    simp only [List.length_append, List.length_singleton] at hlen
    omega
  exact fun x hx => hno x (hpre.subset hx)

namespace Cursor

/-- A check started on terminated tokens with no error, spread as far as `s₁`, has recorded its
errors in token order. -/
theorem Spread.inTokenOrder {s s₁ : Cursor} {r : List Token} {A B : List SyntaxError}
    (ht : Terminated s.tokens) (hs : s.errors = []) (h : Spread s s₁ r A B)
    (hcount : B.length ≤ 1 + r.countP (·.kind == .lbrace)) : InTokenOrder s.tokens s₁.errors := by
  -- the tokens read come before the lookahead, so none of them is the end token
  have hread : ∀ x ∈ r, x.kind ≠ .eof :=
    ht.not_eof_of_append h.tokens (List.cons_ne_nil _ _)
  have hA : ∀ e ∈ A, e.token.kind ≠ .eof :=
    fun e he => hread _ (h.read.subset (List.mem_map.mpr ⟨e, he, rfl⟩))
  rw [h.errors, hs, List.nil_append]
  by_cases hk : s₁.lookahead.kind = .eof
  · -- the errors at the lookahead are those at the end token
    have hla : s₁.lookahead ∈ s.tokens := by
      rw [h.tokens]
      exact List.mem_append_right _ (List.mem_cons_self ..)
    have hle : r.countP (·.kind == .lbrace) ≤ s.tokens.countP (·.kind == .lbrace) := by
      rw [h.tokens, List.countP_append]
      omega
    refine ⟨A, B, rfl, h.read.trans ?_, hA, fun e he => ?_, by omega, h.tail⟩
    · rw [h.tokens]
      exact List.sublist_append_left _ _
    · rw [h.at_lookahead e he]
      exact ⟨hla, hk⟩
  · -- the one error at the lookahead, if any, comes after those at the tokens read
    refine ⟨A ++ B, [], by simp, ?_, fun e he => ?_, by simp, by simp, by simp⟩
    · rw [List.map_append, h.tokens]
      exact h.read.append (map_token_sublist h.at_lookahead (h.single hk) _)
    · rcases List.mem_append.mp he with he | he
      · exact hA e he
      · rw [h.at_lookahead e he]
        exact hk

end Cursor

/-- **The order of a check's errors.**  On terminated tokens, the check records its errors in
the order of their tokens: never two at one token but the end token, which gets at most one more
than there are `{`, every one after the first a missing `}`. -/
theorem check_in_token_order {toks : List Token} (ht : Terminated toks) :
    InTokenOrder toks (check toks).errors := by
  cases toks with
  | nil =>
    obtain ⟨p, t, hp, -⟩ := ht
    simp at hp
  | cons t rest =>
    let s₀ : Cursor := ⟨t, rest, #[.pull]⟩
    let s := s₀.note (.enter .program)
    have ht' : Terminated s.tokens := ht
    have hr : s.Ready := ht'.ready
    have hs : s.errors = [] := rfl
    have hspread := (Cursor.statement_sound.1 s).and_imp (Q := True)
      fun _ => Cursor.statement_spread.1 s s [] (Cursor.Fresh.refl s)
    have hcheck : InTokenOrder s.tokens s₀.program.errors :=
      (Cursor.program_verdict s₀ (P := InTokenOrder s.tokens)
        ((hspread.imp (E := fun s₁ => s.Later s₁ ∧ Cursor.BlockDone s [] s₁)
          (fun _ h => ⟨h.1.1, h.2 trivial⟩) fun h s₁ hh => ?_).bind fun s₁ _ hd => ?_)).2
    · exact hcheck
    · -- the block halted on a fault, since the tokens do not run out
      cases h with
      | unreadable => exact absurd hr (hh.1.2 rfl)
      | fault e =>
        obtain ⟨r, A, B, h₁, he, hfresh, hcount⟩ := hh.2 trivial
        refine ⟨e, rfl, ?_⟩
        have := (h₁.report he hfresh).inTokenOrder ht' hs (by simp; omega)
        simpa [Event.error?] using this
    · -- the block ended normally, and the end token must follow
      obtain ⟨hl, r, A, h₁⟩ := hd
      refine (Reply.holds_widen _ _).mpr (Cursor.holds_consume (fun s₂ _ ha => ?_)
        (fun ha => absurd (hr.of_suffix hl.suffix) (Cursor.not_ready_of_advance ha))
        fun _ => ⟨_, rfl, ?_⟩)
      · rw [(Cursor.advance_spec ha).1]
        exact h₁.inTokenOrder ht' hs (by simp)
      · have := (h₁.report (e := ⟨.expected .eof, s₁.lookahead⟩) rfl (.inl rfl)).inTokenOrder ht' hs
          (by simp)
        simpa [Event.error?] using this

/-- **The syntax errors of a text come in the order of its tokens.**  They are the errors `A` at
tokens other than the end token, at increasing positions of the text's tokens, so never two at
one token, followed by the errors `B` at the end token.  There are at most one more of these than
there are `{` tokens, and every one after the first is a missing `}`, which only a block's test
for its closing `}` reports. -/
theorem errors_in_token_order (s : String) :
    ∃ A B, (Report.ofFeed (Feed.ofString s)).errors = A ++ B ∧
      A.map SyntaxError.token <+ (Reader.ofFeed (Feed.ofString s)).tape.tokens ∧
      (A.map SyntaxError.token).Nodup ∧ (∀ e ∈ A, e.token.kind ≠ .eof) ∧
      (∀ e ∈ B, e.token ∈ (Reader.ofFeed (Feed.ofString s)).tape.tokens ∧ e.token.kind = .eof) ∧
      B.length ≤ 1 + (Reader.ofFeed (Feed.ofString s)).tape.tokens.countP (·.kind == .lbrace) ∧
      ∀ e ∈ B.tail, e.problem = .expected .rbrace := by
  obtain ⟨A, B, he, hsub, hA, hB, hcount, htail⟩ := check_in_token_order (terminated_ofString s)
  exact ⟨A, B, he, hsub, hsub.nodup (tokens_nodup s), hA, hB, hcount, htail⟩

/-- Two blocks left open: a statement is missing at the end, then each block misses its `}`. -/
example : (Report.ofFeed (Feed.ofString "\x7b\x7b")).errors.map (·.problem) =
    [.statementStart, .expected .rbrace, .expected .rbrace] := by
  decide +kernel

end BlockSyntax
