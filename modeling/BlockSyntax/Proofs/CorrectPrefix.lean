import BlockSyntax.Proofs.ExpectedKinds
import BlockSyntax.Proofs.Acceptance

/-! # The first error is at the first token no sentence goes on with

A check that records an error records its first one at the first token with which the tokens
read stop beginning a sentence, and every kind that error expects would have gone on there
(`first_error_correct_prefix`): the checker has the correct-prefix property.

A procedure sees only the symbol it reads, so the proof carries, as long as no error is recorded,
what the tokens read so far ask of the rest (`Context`): a phrase of the symbol being read,
followed by a rest of a given shape.  The grammar is LL(1), so the tokens read and the lookahead
force every sentence that goes on from there through such a phrase and rest, and tokens that no
phrase goes on with begin no sentence (`Context.not_prefix`).  A call from one procedure of
statements to another moves the context in one of five ways (`Context.block_open`, `list_stmt`,
`stmt_more`, `more_stmt`, `stmt_block`).  A fault is placed by the grammar of the symbol being
read (`Located`, from `ExpHalt` and `Expects`), except a statement followed by a token that ends
none, which the context places (`Context.firstAt_end`).  `statement_first` carries this through
the procedures of statements by their mutual induction, and `check_first_error` through a whole
check.
-/

namespace BlockSyntax

/-- The kinds `p` begin a sentence. -/
def SentencePrefix (p : List Kind) : Prop :=
  ∃ r, Sentence (p ++ r)

theorem SentencePrefix.of_append {p q : List Kind} (h : SentencePrefix (p ++ q)) :
    SentencePrefix p := by
  obtain ⟨r, hr⟩ := h
  exact ⟨q ++ r, by rwa [← List.append_assoc]⟩

namespace Derives

theorem head_block {w z : List Kind} (h : Derives .block w z) : w.head? = some .lbrace := by
  cases h
  rfl

/-- A statement that starts with `{` is a block. -/
theorem block_of_stmt {w z : List Kind} (h : Derives .stmt w z) (hw : w.head? = some .lbrace) :
    Derives .block w z := by
  cases h with
  | declaration => cases hw
  | assignment => cases hw
  | nested inner => exact inner

end Derives

namespace Symbol

theorem Begins.of_append {sym : Symbol} {p q : List Kind} (h : sym.Begins (p ++ q)) :
    sym.Begins p := by
  obtain ⟨r, hr⟩ := h
  exact ⟨q ++ r, by rwa [← List.append_assoc]⟩

theorem begins_of_derives {sym : Symbol} {q y : List Kind} (h : Derives sym (q ++ y) y) :
    sym.Begins q :=
  ⟨[], h.shift []⟩

/-! `Block ::= '{' StmtList '}'`, as a statement and as a program -/

theorem block_begins_nil : block.Begins [] :=
  ⟨[.lbrace, .type, .ident, .rbrace], .block (.stmtList .declaration .moreStmts_nil)⟩

theorem block_begins_lbrace : block.Begins [.lbrace] :=
  ⟨[.type, .ident, .rbrace], .block (.stmtList .declaration .moreStmts_nil)⟩

theorem stmt_begins_lbrace : stmt.Begins [.lbrace] :=
  ⟨[.type, .ident, .rbrace], .nested (.block (.stmtList .declaration .moreStmts_nil))⟩

/-- Only a `{` starts a block. -/
theorem not_viable_block_start {k : Kind} (hk : k ≠ .lbrace) : ¬ block.Viable [k] := by
  rintro ⟨r, z, -, hd⟩
  cases hd
  exact hk rfl

/-- After `'{' StmtList`, a `}` goes on. -/
theorem begins_block_close {q y : List Kind} (h : Derives .stmtList (q ++ y) y) :
    block.Begins (.lbrace :: (q ++ [.rbrace])) :=
  ⟨[], by simpa using Derives.block (h.shift [.rbrace])⟩

/-- After `'{' StmtList`, only a `}` goes on. -/
theorem not_viable_block_close {q y : List Kind} {k : Kind} (h : Derives .stmtList (q ++ y) y)
    (hk : stmtList.Closes k) (hne : k ≠ .rbrace) : ¬ block.Viable (.lbrace :: (q ++ [k])) := by
  rintro ⟨r, z, -, hd⟩
  rw [List.cons_append, List.append_assoc] at hd
  cases hd with
  | block list =>
    have := Derives.rest_unique (h.shift ([k] ++ r)) list hk (by simp [Closes])
    exact hne (List.cons.inj this).1

/-- A statement that is a block ends with it. -/
theorem not_viable_nested_end {q y : List Kind} {k : Kind} (h : Derives .block (q ++ y) y)
    (hk : ¬ stmt.Closes k) : ¬ stmt.Viable (q ++ [k]) := by
  rintro ⟨r, z, hz, hd⟩
  rw [List.append_assoc] at hd
  have hq := h.shift ([k] ++ r)
  -- a block ends where its `}` is, whatever follows
  obtain rfl := Derives.rest_unique hq (hd.block_of_stmt hq.head_block) trivial
    (Derives.closedBy_block hz)
  exact hk hz

end Symbol

/-- After a whole block, a sentence has only the end token. -/
theorem not_sentencePrefix_after_block {q y : List Kind} {k : Kind}
    (h : Derives .block (q ++ y) y) (hk : k ≠ .eof) : ¬ SentencePrefix (q ++ [k]) := by
  rintro ⟨r, hr⟩
  rw [Sentence, List.append_assoc] at hr
  have := Derives.rest_unique (h.shift ([k] ++ r)) hr trivial trivial
  exact hk (List.cons.inj this).1

/-! ### What the tokens read ask of the rest -/

/-- After the kinds `P`, with a lookahead of kind `k`, a phrase of `sym` is due, followed by a
rest that satisfies `C`: every such phrase and rest complete `P` to a sentence, and every sentence
that goes on from `P` with `k` has such a phrase and rest next. -/
structure Context (P : List Kind) (k : Kind) (sym : Symbol) (C : List Kind → Prop) : Prop where
  complete : ∀ w z, Derives sym w z → C z → Sentence (P ++ w)
  forced : ∀ w, w.head? = some k → Sentence (P ++ w) → ∃ z, Derives sym w z ∧ C z
  closes : ∀ z, C z → sym.ClosedBy z
  exists_rest : ∃ z, C z

/-- After a statement list: its `}`, then `C`. -/
def Closing (C : List Kind → Prop) (z : List Kind) : Prop :=
  ∃ z₁, z = .rbrace :: z₁ ∧ C z₁

/-- After a statement: the statements after it, then `C`. -/
def AfterStmt (C : List Kind → Prop) (z : List Kind) : Prop :=
  ∃ z', Derives .moreStmts z z' ∧ C z'

theorem Closing.closedBy {C : List Kind → Prop} {z : List Kind} (h : Closing C z) :
    Symbol.moreStmts.ClosedBy z := by
  obtain ⟨z₁, rfl, -⟩ := h
  exact .inl rfl

theorem AfterStmt.closedBy {C : List Kind → Prop} {z : List Kind} (h : AfterStmt (Closing C) z) :
    Symbol.stmt.ClosedBy z := by
  obtain ⟨z', hm, hz'⟩ := h
  exact Derives.closedBy_stmt hm hz'.closedBy

namespace Context

variable {P : List Kind} {k : Kind} {sym : Symbol} {C : List Kind → Prop}

/-- What a phrase of `sym` begins with, the sentence goes on with. -/
theorem prefix_of_begins (hc : Context P k sym C) {p : List Kind} (hp : sym.Begins p) :
    SentencePrefix (P ++ p) := by
  obtain ⟨r, hr⟩ := hp
  obtain ⟨z, hz⟩ := hc.exists_rest
  have hr' : Derives sym ((p ++ r) ++ []) [] := by rwa [List.append_nil]
  exact ⟨r ++ z, by simpa using hc.complete _ z (hr'.shift z) hz⟩

/-- Where no phrase of `sym` goes on, no sentence does. -/
theorem not_prefix (hc : Context P k sym C) {p : List Kind} (hk : p.head? = some k)
    (hp : ¬ sym.Viable p) : ¬ SentencePrefix (P ++ p) := by
  rintro ⟨r, hr⟩
  have hw : (p ++ r).head? = some k := by
    cases p with
    | nil => cases hk
    | cons a p => exact hk
  obtain ⟨z, hd, hz⟩ := hc.forced (p ++ r) hw (by rwa [← List.append_assoc])
  exact hp ⟨r, z, hc.closes z hz, hd⟩

/-- A sentence is a block followed by the end token. -/
theorem program (k : Kind) : Context [] k .block (· = [.eof]) where
  complete _ _ hd hz := by
    subst hz
    exact hd
  forced _ _ hw := ⟨[.eof], hw, rfl⟩
  closes _ hz := by
    subst hz
    trivial
  exists_rest := ⟨_, rfl⟩

/-- After the `{` of a block: its statement list, then its `}`. -/
theorem block_open (hc : Context P k .block C) (hk : k = .lbrace) (k' : Kind) :
    Context (P ++ [k]) k' .stmtList (Closing C) where
  complete w z hd hz := by
    obtain ⟨z₁, rfl, hz₁⟩ := hz
    subst hk
    simpa using hc.complete _ _ (.block hd) hz₁
  forced w _ hw := by
    subst hk
    obtain ⟨z, hd, hz⟩ := hc.forced (.lbrace :: w) rfl (by simpa using hw)
    cases hd with
    | block list => exact ⟨_, list, _, rfl, hz⟩
  closes _ hz := hz.closedBy
  exists_rest := by
    obtain ⟨z, hz⟩ := hc.exists_rest
    exact ⟨_, z, rfl, hz⟩

/-- A statement list starts with a statement. -/
theorem list_stmt (hc : Context P k .stmtList (Closing C)) :
    Context P k .stmt (AfterStmt (Closing C)) where
  complete w _ hd hz := by
    obtain ⟨z', hm, hz'⟩ := hz
    exact hc.complete w z' (.stmtList hd hm) hz'
  forced w hk hw := by
    obtain ⟨z, hd, hz⟩ := hc.forced w hk hw
    cases hd with
    | stmtList first rest => exact ⟨_, first, z, rest, hz⟩
  closes _ hz := hz.closedBy
  exists_rest := by
    obtain ⟨z, hz⟩ := hc.exists_rest
    exact ⟨z, z, .moreStmts_nil, hz⟩

/-- After a statement `u` closed by the lookahead `k'`: the statements after it. -/
theorem stmt_more (hc : Context P k .stmt (AfterStmt (Closing C))) {u y : List Kind} {k' : Kind}
    (hu : Derives .stmt (u ++ y) y) (hk : (u ++ [k']).head? = some k)
    (hk' : Symbol.stmt.Closes k') : Context (P ++ u) k' .moreStmts (Closing C) where
  complete w z hd hz := by
    simpa using hc.complete (u ++ w) w (hu.shift w) ⟨z, hd, hz⟩
  forced w hw hs := by
    have hhead : (u ++ w).head? = some k := by
      cases u with
      | nil => simpa [hw] using hk
      | cons a u => exact hk
    obtain ⟨z, hd, hz⟩ := hc.forced (u ++ w) hhead (by simpa using hs)
    -- the statement ends where `w` begins: the grammar fixes where a phrase ends
    obtain rfl := Derives.rest_unique (hu.shift w) hd (Cursor.closedBy_of_head hw hk') hz.closedBy
    exact hz
  closes _ hz := hz.closedBy
  exists_rest := by
    obtain ⟨_, _, _, hz⟩ := hc.exists_rest
    exact ⟨_, hz⟩

/-- After a `,`: the next statement. -/
theorem more_stmt (hc : Context P k .moreStmts (Closing C)) (hk : k = .comma) (k' : Kind) :
    Context (P ++ [k]) k' .stmt (AfterStmt (Closing C)) where
  complete w _ hd hz := by
    obtain ⟨z', hm, hz'⟩ := hz
    subst hk
    simpa using hc.complete _ _ (.moreStmts_cons hd hm) hz'
  forced w _ hw := by
    subst hk
    obtain ⟨z, hd, hz⟩ := hc.forced (.comma :: w) rfl (by simpa using hw)
    cases hd with
    | moreStmts_nil =>
      obtain ⟨_, h, -⟩ := hz
      cases h
    | moreStmts_cons next rest => exact ⟨_, next, z, rest, hz⟩
  closes _ hz := hz.closedBy
  exists_rest := by
    obtain ⟨z, hz⟩ := hc.exists_rest
    exact ⟨z, z, .moreStmts_nil, hz⟩

/-- A statement that starts with `{` is a block. -/
theorem stmt_block (hc : Context P k .stmt C) (hk : k = .lbrace) : Context P k .block C where
  complete w z hd hz := hc.complete w z (.nested hd) hz
  forced w hw hs := by
    obtain ⟨z, hd, hz⟩ := hc.forced w hw hs
    exact ⟨z, hd.block_of_stmt (hk ▸ hw), hz⟩
  closes z hz := Derives.closedBy_block (hc.closes z hz)
  exists_rest := hc.exists_rest

end Context

/-! ### Where the first error is -/

/-- The error `e` of a check of `toks` is at the first token with which the tokens read stop
beginning a sentence, and every kind it expects would have gone on. -/
def FirstAt (toks : List Token) (e : SyntaxError) : Prop :=
  ∃ Q r, toks = Q ++ e.token :: r ∧ SentencePrefix (Q.map Token.kind) ∧
    ¬ SentencePrefix (Q.map Token.kind ++ [e.token.kind]) ∧
    ∀ T ∈ e.problem.expectedKinds, SentencePrefix (Q.map Token.kind ++ [T])

/-- The first of the errors `es`, if any, is at the first token no sentence goes on with. -/
def FirstOk (toks : List Token) (es : List SyntaxError) : Prop :=
  ∀ e, es.head? = some e → FirstAt toks e

variable {toks : List Token}

theorem FirstOk.nil (toks : List Token) : FirstOk toks [] :=
  fun _ h => by cases h

theorem FirstOk.singleton {e : SyntaxError} (h : FirstAt toks e) : FirstOk toks [e] := by
  intro e' he'
  cases he'
  exact h

/-- Errors recorded after the first leave it first. -/
theorem FirstOk.append {es : List SyntaxError} (h : FirstOk toks es) (hne : es ≠ [])
    (es' : List SyntaxError) : FirstOk toks (es ++ es') := by
  intro e he
  cases es with
  | nil => exact absurd rfl hne
  | cons a es => exact h e he

/-- The same, by the position of the error's token. -/
theorem FirstAt.exists_index {e : SyntaxError} (h : FirstAt toks e) :
    ∃ j, toks[j]? = some e.token ∧ ¬ SentencePrefix ((toks.map Token.kind).take (j + 1)) ∧
      (∀ i < j, SentencePrefix ((toks.map Token.kind).take (i + 1))) ∧
      ∀ T ∈ e.problem.expectedKinds, SentencePrefix ((toks.map Token.kind).take j ++ [T]) := by
  obtain ⟨Q, r, rfl, hpre, hnot, hexp⟩ := h
  have htake : ((Q ++ e.token :: r).map Token.kind).take Q.length = Q.map Token.kind := by
    simp
  refine ⟨Q.length, by simp, ?_, fun i hi => ?_, by rwa [htake]⟩
  · have hsplit : (Q ++ e.token :: r).map Token.kind =
        (Q.map Token.kind ++ [e.token.kind]) ++ r.map Token.kind := by
      simp
    rwa [hsplit, List.take_left' (by simp)]
  · -- a prefix of the tokens before the error begins a sentence too
    have hle : i + 1 ≤ (Q.map Token.kind).length := by
      rw [List.length_map]
      exact hi
    rw [List.map_append, List.take_append_of_le_length hle]
    rw [← List.take_append_drop (i + 1) (Q.map Token.kind)] at hpre
    exact hpre.of_append

/-- After a statement `u` that a token ending no statement follows, a `,` or a `}` would have
gone on, and that token does not. -/
theorem Context.firstAt_end {C : List Kind → Prop} {s s₁ : Cursor} {Q u : List Token}
    (hc : Context (Q.map Token.kind) s.lookahead.kind .stmt (AfterStmt (Closing C)))
    (htoks : toks = Q ++ s.tokens) (hu : s.tokens = u ++ s₁.tokens)
    (hder : Derives .stmt (u.map Token.kind ++ s₁.kinds) s₁.kinds)
    (hv : ¬ Symbol.stmt.Viable (u.map Token.kind ++ [s₁.lookahead.kind])) :
    FirstAt toks ⟨.statementEnd, s₁.lookahead⟩ := by
  obtain ⟨-, -, -, z₁, -, hz₁⟩ := hc.exists_rest
  refine ⟨Q ++ u, s₁.ahead, ?_, ?_, ?_, fun T hT => ?_⟩
  · rw [htoks, hu, List.append_assoc]
    rfl
  · simpa using hc.prefix_of_begins (Symbol.begins_of_derives hder)
  · simpa using hc.not_prefix (Cursor.head_read hu) hv
  · simp only [Problem.expectedKinds, List.mem_cons, List.mem_nil_iff, or_false] at hT
    rcases hT with rfl | rfl
    · -- a `,` and a declaration after it
      have := hc.complete _ _ (hder.shift (.comma :: .type :: .ident :: .rbrace :: z₁))
        ⟨_, .moreStmts_cons .declaration .moreStmts_nil, z₁, rfl, hz₁⟩
      exact ⟨[.type, .ident, .rbrace] ++ z₁, by simpa using this⟩
    · have := hc.complete _ _ (hder.shift (.rbrace :: z₁)) ⟨_, .moreStmts_nil, z₁, rfl, hz₁⟩
      exact ⟨z₁, by simpa using this⟩

namespace Cursor

/-! ### Faults placed by the symbol being read -/

/-- A fault `e` found at `s'` by a procedure reading `sym` from `s`, placed by the grammar of
`sym` alone: the tokens read before it begin a phrase of `sym`, its token makes them non-viable,
and each kind it expects goes on. -/
def Located (sym : Symbol) (s : Cursor) (e : SyntaxError) (s' : Cursor) : Prop :=
  e.token = s'.lookahead ∧ ∃ q, s.tokens = q ++ s'.tokens ∧ sym.Begins (q.map Token.kind) ∧
    ¬ sym.Viable (q.map Token.kind ++ [e.token.kind]) ∧
    ∀ T ∈ e.problem.expectedKinds, sym.Begins (q.map Token.kind ++ [T])

theorem located_of_halt {sym : Symbol} {s s' : Cursor} {e : SyntaxError}
    (hh : ExpHalt sym s (.fault e) s') (hx : Expects sym s (.fault e) s') : Located sym s e s' := by
  obtain ⟨-, htok, q, hq, hb, hv⟩ := hh
  obtain ⟨q', hq', hT⟩ := hx
  obtain rfl : q' = q := List.append_cancel_right (hq'.symm.trans hq)
  exact ⟨htok, q', hq, hb, hv, hT⟩

/-- No statement starts with a token other than a type, an identifier or a `{`. -/
theorem located_stmt_start {s : Cursor} (ht : s.lookahead.kind ≠ .type)
    (hi : s.lookahead.kind ≠ .ident) (hb : s.lookahead.kind ≠ .lbrace) :
    Located .stmt s ⟨.statementStart, s.lookahead⟩ s := by
  refine ⟨rfl, [], rfl, Symbol.stmt_begins_nil, Symbol.not_viable_stmt_start ht hi hb,
    fun T hT => ?_⟩
  simp only [Problem.expectedKinds, List.mem_cons, List.mem_nil_iff, or_false] at hT
  rcases hT with rfl | rfl | rfl
  · exact Symbol.stmt_begins_type
  · exact Symbol.stmt_begins_ident
  · exact Symbol.stmt_begins_lbrace

/-- No block starts with a token other than `{`. -/
theorem located_block_start {s : Cursor} (hk : s.lookahead.kind ≠ .lbrace) :
    Located .block s ⟨.expected .lbrace, s.lookahead⟩ s := by
  refine ⟨rfl, [], rfl, Symbol.block_begins_nil, Symbol.not_viable_block_start hk, fun T hT => ?_⟩
  simp only [Problem.expectedKinds, List.mem_singleton] at hT
  subst hT
  exact Symbol.block_begins_lbrace

/-- A block whose statement list was read with no error up to the end token misses its `}`
there. -/
theorem located_block_close {s s₁ s₂ : Cursor} (hk : s.lookahead.kind = .lbrace)
    (ha : s.advance = some s₁) (hq : s₁.Quiet s₂) (hder : Derives .stmtList s₁.kinds s₂.kinds)
    (heof : s₂.lookahead.kind = .eof) : Located .block s ⟨.expected .rbrace, s₂.lookahead⟩ s₂ := by
  obtain ⟨u, hu⟩ := hq.consumed
  rw [kinds_eq_of_tokens hu] at hder
  have hbegin := Symbol.begins_block_close hder
  refine ⟨rfl, s.lookahead :: u, ?_, ?_, ?_, fun T hT => ?_⟩
  · rw [tokens_of_advance ha (by rw [hk]; decide), hu]
    rfl
  · rw [List.map_cons, hk]
    exact Symbol.Begins.of_append (q := [.rbrace]) hbegin
  · simpa [hk, heof] using Symbol.not_viable_block_close hder (k := .eof) (.inr rfl) (by decide)
  · simp only [Problem.expectedKinds, List.mem_singleton] at hT
    subst hT
    simpa [hk] using hbegin

/-! ### The state of a check before its first error -/

/-- A check of `toks` reading `sym` from `s`, to be followed by a rest that satisfies `C`: its
first error, if any, is placed right, and with none yet, the tokens read so far set the
context. -/
structure Reading (toks : List Token) (sym : Symbol) (C : List Kind → Prop) (s : Cursor) :
    Prop where
  first : FirstOk toks s.errors
  context : s.errors = [] →
    ∃ Q, toks = Q ++ s.tokens ∧ Context (Q.map Token.kind) s.lookahead.kind sym C

/-- A procedure halted: on a fault, the fault recorded next keeps the first error placed
right. -/
def HaltOk (toks : List Token) : Halt → Cursor → Prop
  | .unreadable, _ => True
  | .fault e, s => FirstOk toks (s.errors ++ [e])

/-- A statement ended on `s`: the first error is placed right, and a statement ends there. -/
def StmtFirst (toks : List Token) (s : Cursor) : Prop :=
  FirstOk toks s.errors ∧ s.lookahead.kind.endsStatement = true

/-- A statement list ended on `s`: the first error is placed right, and the lookahead is a `}`
or the end token. -/
def ListFirst (toks : List Token) (s : Cursor) : Prop :=
  FirstOk toks s.errors ∧ (s.lookahead.kind = .rbrace ∨ s.lookahead.kind = .eof)

/-- The body of a statement read from `s₀` ended on `s`: the first error is placed right, and
with none, the body read a statement. -/
def BodyFirst (toks : List Token) (s₀ s : Cursor) : Prop :=
  s₀.Later s ∧ FirstOk toks s.errors ∧ (s.errors = [] → BodyDone s₀ s)

variable {sym sym' : Symbol} {C C' : List Kind → Prop} {s s' : Cursor}

theorem Later.quiet_of_nil (hl : s.Later s') (he : s'.errors = []) : s.Quiet s' :=
  ⟨hl.suffix, he.trans (List.prefix_nil.mp (he ▸ hl.errors)).symm⟩

theorem firstOk_note {x : Event} (hx : x.error? = none) :
    FirstOk toks (s.note x).errors ↔ FirstOk toks s.errors := by
  rw [errors_note, hx, Option.toList_none, List.append_nil]

theorem Reading.note (hr : Reading toks sym C s) {x : Event} (hx : x.error? = none) :
    Reading toks sym C (s.note x) := by
  have he : (s.note x).errors = s.errors := by simp [hx]
  refine ⟨he ▸ hr.first, fun h => ?_⟩
  rw [he] at h
  exact hr.context h

/-- The same point of a check, seen as reading another symbol. -/
theorem Reading.retarget (hr : Reading toks sym C s)
    (hc : ∀ P, Context P s.lookahead.kind sym C → Context P s.lookahead.kind sym' C') :
    Reading toks sym' C' s :=
  ⟨hr.first, fun he => (hr.context he).imp fun _ h => ⟨h.1, hc _ h.2⟩⟩

/-- Moving past the tokens `u` with no error, to the context they lead to. -/
theorem Reading.move (hr : Reading toks sym C s) (hq : s.Quiet s') {u : List Token}
    (hu : s.tokens = u ++ s'.tokens)
    (hc : ∀ Q : List Token, Context (Q.map Token.kind) s.lookahead.kind sym C →
      Context ((Q ++ u).map Token.kind) s'.lookahead.kind sym' C') :
    Reading toks sym' C' s' := by
  refine ⟨hq.errors ▸ hr.first, fun he => ?_⟩
  obtain ⟨Q, htoks, hcQ⟩ := hr.context (hq.errors.symm.trans he)
  exact ⟨Q ++ u, by rw [htoks, hu, List.append_assoc], hc Q hcQ⟩

/-- After a statement, its context gives way to that of the statements after it. -/
theorem Reading.after_stmt {C : List Kind → Prop} (hr : Reading toks .stmt (AfterStmt (Closing C)) s)
    (hd : StmtDone .stmt s s') (hf : StmtFirst toks s') :
    Reading toks .moreStmts (Closing C) s' := by
  refine ⟨hf.1, fun he => ?_⟩
  have hq := hd.1.quiet_of_nil he
  obtain ⟨u, hu⟩ := hq.consumed
  obtain ⟨Q, htoks, hc⟩ := hr.context (hq.errors.symm.trans he)
  have hder : Derives .stmt (u.map Token.kind ++ s'.kinds) s'.kinds :=
    kinds_eq_of_tokens hu ▸ hd.2 hq.errors
  refine ⟨Q ++ u, by rw [htoks, hu, List.append_assoc], ?_⟩
  rw [List.map_append]
  exact hc.stmt_more hder (head_read hu) (Symbol.closes_stmt_iff.mpr hf.2)

/-- A fault found at `s'`, recorded after the errors there: the first error stays placed right,
and if it is the first, the grammar of the symbol being read places it. -/
theorem Reading.fault (hr : Reading toks sym C s) (hl : s.Later s') (hf : FirstOk toks s'.errors)
    {e : SyntaxError} (hloc : s'.errors = [] → Located sym s e s') :
    FirstOk toks (s'.errors ++ [e]) := by
  by_cases he : s'.errors = []
  · obtain ⟨Q, htoks, hc⟩ := hr.context ((hl.quiet_of_nil he).errors.symm.trans he)
    obtain ⟨htok, q, hq, hb, hv, hT⟩ := hloc he
    rw [he]
    refine FirstOk.singleton ⟨Q ++ q, s'.ahead, ?_, ?_, ?_, fun T hT' => ?_⟩
    · rw [htoks, hq, htok, List.append_assoc]
      rfl
    · simpa using hc.prefix_of_begins hb
    · have hhead := head_read hq
      rw [← htok] at hhead
      simpa using hc.not_prefix hhead hv
    · simpa using hc.prefix_of_begins (hT T hT')
  · exact hf.append he _

/-- The body of a statement followed by a token that ends no statement. -/
theorem Reading.fault_end {C : List Kind → Prop} {s₁ : Cursor}
    (hr : Reading toks .stmt (AfterStmt (Closing C)) s) (hb : BodyFirst toks s s₁)
    (hend : s₁.lookahead.kind.endsStatement = false) :
    FirstOk toks (s₁.errors ++ [⟨.statementEnd, s₁.lookahead⟩]) := by
  by_cases he : s₁.errors = []
  · obtain ⟨hq, hder, hstuck⟩ := hb.2.2 he
    obtain ⟨Q, htoks, hc⟩ := hr.context (hq.errors.symm.trans he)
    obtain ⟨u, hu⟩ := hq.consumed
    have hcl : ¬ Symbol.stmt.Closes s₁.lookahead.kind := by
      rw [Symbol.closes_stmt_iff, hend]
      decide
    rw [he]
    exact FirstOk.singleton (hc.firstAt_end htoks hu (kinds_eq_of_tokens hu ▸ hder)
      (hstuck u hu hcl))
  · exact hb.2.1.append he _

/-- The body of a statement, a declaration or an assignment, that records no error. -/
theorem Reading.body {n : Nat} {r : Reply n} (hr : Reading toks .stmt C s)
    (hspec : r.Holds (fun s' => BodyDone s s' ∧ True)
      fun h s' => ExpHalt .stmt s h s' ∧ Expects .stmt s h s') :
    r.Holds (BodyFirst toks s) (HaltOk toks) := by
  refine hspec.imp (fun s' hd => ⟨hd.1.1.later, hd.1.1.errors ▸ hr.first, fun _ => hd.1⟩)
    fun h s' hh => ?_
  cases h with
  | unreadable => trivial
  | fault e =>
    exact hr.fault hh.1.1.later (hh.1.1.errors ▸ hr.first) fun _ => located_of_halt hh.1 hh.2

/-- A block read as the body of a statement. -/
theorem BodyFirst.of_block (hf : FirstOk toks s'.errors) (hd : StmtDone .block s s') :
    BodyFirst toks s s' := by
  refine ⟨hd.1, hf, fun he => ?_⟩
  have hq := hd.1.quiet_of_nil he
  have hder := hd.2 hq.errors
  refine ⟨hq, .nested hder, fun q hq' hcl => ?_⟩
  rw [kinds_eq_of_tokens hq'] at hder
  exact Symbol.not_viable_nested_end hder hcl

/-- **Recovery.**  Recording a fault that keeps the first error placed right, and skipping to
the end of the statement, ends the statement. -/
theorem recover_first {e : SyntaxError} (hf : FirstOk toks (s.errors ++ [e])) :
    ((s.note (.report e)).skipToEnd).Holds (fun s' => StmtFirst toks (s'.note (.leave .stmt)))
      (HaltOk toks) := by
  refine (skipToEnd_spec _).imp (fun s' hd => ⟨?_, hd.2.1⟩) fun h s' hh => ?_
  · rw [firstOk_note rfl, hd.1.errors, errors_note]
    exact hf
  · obtain ⟨rfl, -⟩ := hh
    trivial

/-! ### The procedures of statements -/

/-- **A block**, given its statement list. -/
theorem block_first_step (s : Cursor)
    (ih : s.lookahead.kind = .lbrace → ∀ s₁, (s.note (.enter .block)).advance = some s₁ →
      ∀ C, Reading toks .stmtList (Closing C) s₁ → s₁.stmtList.Holds (ListFirst toks) (HaltOk toks))
    (C : List Kind → Prop) (hr : Reading toks .block C s) :
    s.block.Holds (fun s' => FirstOk toks s'.errors) (HaltOk toks) := by
  have hr₀ := hr.note (x := .enter .block) rfl
  refine holds_block (fun hk s₁ ha => ?_) (fun _ _ => trivial)
    fun hne => hr₀.fault (Later.refl _) hr₀.first fun _ => located_block_start hne
  have hne₀ : (s.note (.enter .block)).lookahead.kind ≠ .eof := by
    rw [lookahead_note, hk]
    decide
  have hr₁ : Reading toks .stmtList (Closing C) s₁ :=
    hr₀.move (Quiet.advance ha) (tokens_of_advance ha hne₀) fun Q hc => by
      simpa using hc.block_open hk s₁.lookahead.kind
  refine ((ih hk s₁ ha C hr₁).both (statement_sound.2.1 s₁)).imp (fun s₂ hd => ?_)
    fun _ _ hh => hh.1
  obtain ⟨⟨hf₂, hend⟩, hl₂, hder₂⟩ := hd
  refine holds_consume (fun s₃ _ ha₃ => ?_) (fun _ => trivial) fun hne₂ => ?_
  · rw [firstOk_note rfl, (Quiet.advance ha₃).errors]
    exact hf₂
  · -- a missing `}`: the statement list ended at the end token
    have heof : s₂.lookahead.kind = .eof := hend.resolve_left hne₂
    refine hr₀.fault ((Quiet.advance ha).later.trans hl₂) hf₂ fun he => ?_
    have hq₂ := hl₂.quiet_of_nil he
    exact located_block_close hk ha hq₂ (hder₂ hq₂.errors) heof

/-- **A statement list**, given its first statement and the statements after it. -/
theorem stmtList_first_step (s : Cursor)
    (ihs : ∀ C, Reading toks .stmt (AfterStmt (Closing C)) (s.note (.enter .stmtList)) →
      (s.note (.enter .stmtList)).stmt.Holds (StmtFirst toks) (HaltOk toks))
    (ihm : ∀ s₁ : Cursor, s₁.size ≤ (s.note (.enter .stmtList)).size → ∀ C,
      s₁.lookahead.kind.endsStatement = true → Reading toks .moreStmts (Closing C) s₁ →
      s₁.moreStmts.Holds (ListFirst toks) (HaltOk toks))
    (C : List Kind → Prop) (hr : Reading toks .stmtList (Closing C) s) :
    s.stmtList.Holds (ListFirst toks) (HaltOk toks) := by
  have hr₀ : Reading toks .stmt (AfterStmt (Closing C)) (s.note (.enter .stmtList)) :=
    (hr.note rfl).retarget fun _ hc => hc.list_stmt
  refine holds_stmtList (((ihs C hr₀).both (statement_sound.2.2.2 _)).imp (fun s₁ hd => ?_)
    fun _ _ hh => hh.1)
  refine (ihm s₁ hd.2.1.size_le C hd.1.2 (hr₀.after_stmt hd.2 hd.1)).imp (fun s₂ hl => ?_)
    fun _ _ hh => hh
  exact ⟨(firstOk_note rfl).mpr hl.1, hl.2⟩

/-- **The statements after the first**, given the next statement and those after it. -/
theorem moreStmts_first_step (s : Cursor)
    (ihs : s.lookahead.kind = .comma → ∀ s₁, s.advance = some s₁ → ∀ C,
      Reading toks .stmt (AfterStmt (Closing C)) s₁ → s₁.stmt.Holds (StmtFirst toks) (HaltOk toks))
    (ihm : s.lookahead.kind = .comma → ∀ s₁, s.advance = some s₁ → ∀ s₂ : Cursor,
      s₂.size ≤ s₁.size → ∀ C, s₂.lookahead.kind.endsStatement = true →
      Reading toks .moreStmts (Closing C) s₂ → s₂.moreStmts.Holds (ListFirst toks) (HaltOk toks))
    (C : List Kind → Prop) (hend : s.lookahead.kind.endsStatement = true)
    (hr : Reading toks .moreStmts (Closing C) s) :
    s.moreStmts.Holds (ListFirst toks) (HaltOk toks) := by
  refine holds_moreStmts (fun hk s₁ ha => ?_) (fun _ _ => trivial) fun hk => ⟨hr.first, ?_⟩
  · have hr₁ : Reading toks .stmt (AfterStmt (Closing C)) s₁ :=
      hr.move (Quiet.advance ha) (tokens_of_advance ha (by rw [hk]; decide)) fun Q hc => by
        simpa using hc.more_stmt hk s₁.lookahead.kind
    refine ((ihs hk s₁ ha C hr₁).both (statement_sound.2.2.2 s₁)).imp (fun s₂ hd => ?_)
      fun _ _ hh => hh.1
    exact ihm hk s₁ ha s₂ hd.2.1.size_le C hd.1.2 (hr₁.after_stmt hd.2 hd.1)
  · -- the list ends where a statement ended, on no `,`
    rcases Kind.endsStatement_iff.mp hend with h | h | h
    · exact absurd h hk
    · exact .inl h
    · exact .inr h

/-- **A statement**, given the block it may be. -/
theorem stmt_first_step (s : Cursor)
    (ih : ∀ C, Reading toks .block C (s.note (.enter .stmt)) →
      (s.note (.enter .stmt)).block.Holds (fun s' => FirstOk toks s'.errors) (HaltOk toks))
    (C : List Kind → Prop) (hr : Reading toks .stmt (AfterStmt (Closing C)) s) :
    s.stmt.Holds (StmtFirst toks) (HaltOk toks) := by
  have hr₀ := hr.note (x := .enter .stmt) rfl
  refine holds_stmt (B := BodyFirst toks (s.note (.enter .stmt))) (F := HaltOk toks)
    (fun hk => hr₀.body ((declaration_spec (s.note (.enter .stmt)) hk).both
      (declaration_expects _ hk)))
    (fun hk => hr₀.body ((assignment_spec (s.note (.enter .stmt)) hk).both
      (assignment_expects _ hk)))
    (fun hk => ?_)
    (fun h₁ h₂ h₃ => recover_first
      (hr₀.fault (Later.refl _) hr₀.first fun _ => located_stmt_start h₁ h₂ h₃))
    (fun s₁ hb hend => ⟨(firstOk_note rfl).mpr hb.2.1, hend⟩)
    (fun s₁ hb hend => recover_first (hr₀.fault_end hb hend))
    (fun _ _ => trivial) fun _ _ hh => recover_first hh
  -- a statement that starts with `{` is a block
  have hrb : Reading toks .block (AfterStmt (Closing C)) (s.note (.enter .stmt)) :=
    hr₀.retarget fun _ hc => hc.stmt_block hk
  exact ((ih _ hrb).both (statement_sound.1 _)).imp (fun _ hd => BodyFirst.of_block hd.1 hd.2)
    fun _ _ hh => hh.1

/-- **Where the procedures of statements put their first error.**  Started where the tokens
read set a context, or after an error placed right, each procedure of statements places its
first error, if it records one, at the first token no sentence goes on with, and so does the
fault it halts on; a statement ends where a statement ends, and a statement list on a `}` or the
end token. -/
theorem statement_first (toks : List Token) :
    (∀ s : Cursor, ∀ C, Reading toks .block C s →
      s.block.Holds (fun s' => FirstOk toks s'.errors) (HaltOk toks)) ∧
    (∀ s : Cursor, ∀ C, Reading toks .stmtList (Closing C) s →
      s.stmtList.Holds (ListFirst toks) (HaltOk toks)) ∧
    (∀ s : Cursor, ∀ C, s.lookahead.kind.endsStatement = true →
      Reading toks .moreStmts (Closing C) s → s.moreStmts.Holds (ListFirst toks) (HaltOk toks)) ∧
    (∀ s : Cursor, ∀ C, Reading toks .stmt (AfterStmt (Closing C)) s →
      s.stmt.Holds (StmtFirst toks) (HaltOk toks)) := by
  apply Cursor.block.mutual_induct
    (fun s => ∀ C, Reading toks .block C s →
      s.block.Holds (fun s' => FirstOk toks s'.errors) (HaltOk toks))
    (fun s => ∀ C, Reading toks .stmtList (Closing C) s →
      s.stmtList.Holds (ListFirst toks) (HaltOk toks))
    (fun s => ∀ C, s.lookahead.kind.endsStatement = true →
      Reading toks .moreStmts (Closing C) s → s.moreStmts.Holds (ListFirst toks) (HaltOk toks))
    (fun s => ∀ C, Reading toks .stmt (AfterStmt (Closing C)) s →
      s.stmt.Holds (StmtFirst toks) (HaltOk toks))
  -- each case passes its hypotheses on to the step lemma of its procedure
  case case1 =>
    intro s; dsimp only; intro hk ha
    exact block_first_step s fun _ s₁ ha₁ => by cases ha.symm.trans ha₁
  case case2 =>
    intro s; dsimp only; intro hk s₂ ha _ ih
    exact block_first_step s fun _ s₁ ha₁ => by cases ha.symm.trans ha₁; exact ih
  case case3 =>
    intro s; dsimp only; intro hk
    exact block_first_step s fun hk' => absurd hk' hk
  case case4 =>
    intro s; dsimp only; intro ihs ihm
    exact stmtList_first_step s ihs ihm
  case case5 =>
    intro s hk ha
    exact moreStmts_first_step s (fun _ s₁ ha₁ => by cases ha.symm.trans ha₁)
      fun _ s₁ ha₁ => by cases ha.symm.trans ha₁
  case case6 =>
    intro s hk s₂ ha _ ihs ihm
    exact moreStmts_first_step s (fun _ s₁ ha₁ => by cases ha.symm.trans ha₁; exact ihs)
      fun _ s₁ ha₁ => by cases ha.symm.trans ha₁; exact ihm
  case case7 =>
    intro s hk
    exact moreStmts_first_step s (fun hk' => absurd hk' hk) fun hk' => absurd hk' hk
  case case8 =>
    intro s; dsimp only; intro _ _ _ ih
    exact stmt_first_step s ih
  case case9 =>
    intro s; dsimp only; intro _ _ _ ih
    exact stmt_first_step s ih
  case case10 =>
    intro s; dsimp only; intro _ _ _ _ ih
    exact stmt_first_step s ih

end Cursor

/-! ### Whole checks -/

/-- After a whole block read with no error, only the end token goes on. -/
theorem firstAt_program_end {s s₁ : Cursor} {u : List Token} (hq : s.tokens = u ++ s₁.tokens)
    (hder : Derives .block s.kinds s₁.kinds) (hk : s₁.lookahead.kind ≠ .eof) :
    FirstAt s.tokens ⟨.expected .eof, s₁.lookahead⟩ := by
  rw [Cursor.kinds_eq_of_tokens hq] at hder
  refine ⟨u, s₁.ahead, by rw [hq]; rfl, ⟨[.eof], hder.shift [.eof]⟩,
    not_sentencePrefix_after_block hder hk, fun T hT => ?_⟩
  simp only [Problem.expectedKinds, List.mem_singleton] at hT
  subst hT
  exact ⟨[], by rw [List.append_nil]; exact hder.shift [.eof]⟩

/-- **The first error of a check.**  On terminated tokens, the first error a check records, if
any, is at the first token with which the tokens read stop beginning a sentence, and every kind
it expects would have gone on. -/
theorem check_first_error {toks : List Token} (ht : Terminated toks) :
    FirstOk toks (check toks).errors := by
  cases toks with
  | nil =>
    obtain ⟨p, t, hp, -⟩ := ht
    simp at hp
  | cons t rest =>
    let s₀ : Cursor := ⟨t, rest, #[.pull]⟩
    let s := s₀.note (.enter .program)
    have ht' : Terminated s.tokens := ht
    have hr : s.Ready := ht'.ready
    have hread : Cursor.Reading s.tokens .block (· = [.eof]) s :=
      ⟨FirstOk.nil _, fun _ => ⟨[], rfl, Context.program _⟩⟩
    have hfirst := ((Cursor.statement_first s.tokens).1 s _ hread).both (Cursor.statement_sound.1 s)
    have hcheck : FirstOk s.tokens s₀.program.errors :=
      (Cursor.program_verdict s₀ (P := FirstOk s.tokens)
        ((hfirst.imp (E := fun s₁ => FirstOk s.tokens s₁.errors ∧ Cursor.StmtDone .block s s₁)
          (fun _ h => h) fun h s₁ hh => ?_).bind fun s₁ _ hd => ?_)).2
    · exact hcheck
    · -- the block halted on a fault, since the tokens do not run out
      cases h with
      | unreadable => exact absurd hr (hh.2.2 rfl)
      | fault e => exact ⟨e, rfl, hh.1⟩
    · -- the block ended, and the end token must follow
      obtain ⟨hf, hl, hder⟩ := hd
      refine (Reply.holds_widen _ _).mpr (Cursor.holds_consume (fun s₂ _ ha => ?_)
        (fun ha => absurd (hr.of_suffix hl.suffix) (Cursor.not_ready_of_advance ha))
        fun hne => ⟨_, rfl, ?_⟩)
      · rw [(Cursor.advance_spec ha).1]
        exact hf
      · by_cases he : s₁.errors = []
        · have hq := hl.quiet_of_nil he
          obtain ⟨u, hu⟩ := hq.consumed
          rw [he]
          exact FirstOk.singleton (firstAt_program_end hu (hder hq.errors) hne)
        · exact hf.append he _

/-- **The correct-prefix property.**  When the check of a text records an error, its first
error is at the `j`-th token of the text, where `j` is least such that the kinds of the tokens up
to the `j`-th begin no sentence; and each kind the error expects, in place of the `j`-th token,
would still begin one. -/
theorem first_error_correct_prefix (s : String) (e : SyntaxError)
    (he : (Report.ofFeed (Feed.ofString s)).errors.head? = some e) :
    ∃ j, (Reader.ofFeed (Feed.ofString s)).tape.tokens[j]? = some e.token ∧
      ¬ SentencePrefix
        (((Reader.ofFeed (Feed.ofString s)).tape.tokens.map Token.kind).take (j + 1)) ∧
      (∀ i < j, SentencePrefix
        (((Reader.ofFeed (Feed.ofString s)).tape.tokens.map Token.kind).take (i + 1))) ∧
      ∀ T ∈ e.problem.expectedKinds, SentencePrefix
        (((Reader.ofFeed (Feed.ofString s)).tape.tokens.map Token.kind).take j ++ [T]) :=
  (check_first_error (terminated_ofString s) e he).exists_index

/-- In `{int x int y}` a `,` is missing: the first error is at the second `int`, the first token
with which no sentence goes on. -/
theorem missing_comma_first_error :
    (Report.ofFeed (Feed.ofString "\x7bint x int y\x7d")).errors.head? =
        some ⟨.statementEnd, ⟨.type, "int", ⟨1, 8⟩⟩⟩ ∧
      ∃ j, (Reader.ofFeed (Feed.ofString "\x7bint x int y\x7d")).tape.tokens[j]? =
          some ⟨.type, "int", ⟨1, 8⟩⟩ ∧
        ¬ SentencePrefix (((Reader.ofFeed (Feed.ofString "\x7bint x int y\x7d")).tape.tokens.map
          Token.kind).take (j + 1)) ∧
        (∀ i < j, SentencePrefix (((Reader.ofFeed (Feed.ofString "\x7bint x int y\x7d")).tape.tokens.map
          Token.kind).take (i + 1))) ∧
        ∀ T ∈ Problem.statementEnd.expectedKinds,
          SentencePrefix (((Reader.ofFeed (Feed.ofString "\x7bint x int y\x7d")).tape.tokens.map
            Token.kind).take j ++ [T]) := by
  have he : (Report.ofFeed (Feed.ofString "\x7bint x int y\x7d")).errors.head? =
      some ⟨.statementEnd, ⟨.type, "int", ⟨1, 8⟩⟩⟩ := by
    decide +kernel
  exact ⟨he, first_error_correct_prefix _ _ he⟩

end BlockSyntax
