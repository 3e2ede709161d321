import BlockSyntax.Proofs.Acceptance
import BlockSyntax.Proofs.ExpectedKinds
import BlockSyntax.Proofs.OnlineCheck
import BlockSyntax.Proofs.ExpressionRules

/-! # How many tokens a check pulls

Every procedure of the checker moves past its lookahead only after testing its kind against one
that is not the end token, so each of its pulls moves the cursor one token on.  `Paced s s'`
says so of the stretch from `s` to `s'`: the pulls made and the tokens ahead add up to the same.
It holds of every procedure, from where it starts to where it ends, normally or not
(`expression_paced`, `statement_paced`, one step lemma per procedure over its rule).

Only the program procedure pulls at the end token: once, right after its block has ended there.
So the check of a text pulls the first token, one token for each token it moves past, and at most
one more (`check_pulls`); and a text has at most one token more than characters
(`tokens_length_le`).
-/

namespace BlockSyntax

/-- Every token but the end token takes a character, so there is at most one token more than
characters. -/
theorem lexAll_length_le (pos : Position) (cs : List Char) :
    (lexAll pos cs).length ≤ cs.length + 1 := by
  -- on the length of what is left, which every token but the end token shortens
  generalize hn : cs.length = n
  induction n using Nat.strongRecOn generalizing pos cs with
  | ind n ih =>
    rw [lexAll_eq]
    dsimp only
    split
    · simp
    · next hk =>
      have hlt : (Mode.start.lex "" pos pos cs).rest.length < n := hn ▸ Mode.lex_start_rest_lt hk
      have := ih _ hlt (Mode.start.lex "" pos pos cs).pos _ rfl
      simp only [List.length_cons]
      omega

/-- A text of `n` characters has at most `n + 1` tokens. -/
theorem tokens_length_le (s : String) :
    (Reader.ofFeed (Feed.ofString s)).tape.tokens.length ≤ s.length + 1 := by
  rw [tokens_ofString, ← String.length_toList]
  exact lexAll_length_le _ _

namespace Cursor

/-- A pull records a pull and nothing else. -/
theorem log_advance {s s' : Cursor} (h : s.advance = some s') : s'.log = s.log.push .pull := by
  unfold advance at h
  split at h
  · cases h; rfl
  · split at h
    · cases h; rfl
    · cases h

theorem pulls_advance {s s' : Cursor} (h : s.advance = some s') : s'.pulls = s.pulls + 1 := by
  simp [pulls, log_advance h]

/-- From `s` to `s'` the checker pulled a token for each token it moved past, and no other: the
pulls made and the tokens ahead add up to the same. -/
def Paced (s s' : Cursor) : Prop :=
  s'.pulls + s'.size = s.pulls + s.size

variable {s s₁ s₂ : Cursor}

theorem Paced.refl (s : Cursor) : Paced s s := rfl

theorem Paced.trans (h₁ : Paced s s₁) (h₂ : Paced s₁ s₂) : Paced s s₂ :=
  Eq.trans h₂ h₁

/-- Recording an event other than a pull. -/
theorem Paced.note (h : Paced s s₁) {e : Event} (he : e ≠ .pull) : Paced s (s₁.note e) := by
  rw [Paced, pulls_note _ he, size_note]
  exact h

/-- Moving past a lookahead other than the end token: one pull for one token. -/
theorem Paced.advance (h : Paced s s₁) (ha : s₁.advance = some s₂) (hk : s₁.lookahead.kind ≠ .eof) :
    Paced s s₂ := by
  have hlen := congrArg List.length (tokens_of_advance ha hk)
  simp only [tokens, List.length_cons, List.length_append, List.length_nil] at hlen
  unfold Paced size at *
  rw [pulls_advance ha]
  omega

/-- The pulls after a paced stretch that read the tokens `q`: one for each of them. -/
theorem Paced.pulls_eq {q : List Token} (h : Paced s s₁) (hq : s.tokens = q ++ s₁.tokens) :
    s₁.pulls = s.pulls + q.length := by
  have hlen := congrArg List.length hq
  simp only [tokens, List.length_cons, List.length_append] at hlen
  unfold Paced size at h
  omega

/-- A call paced from where it starts, after a stretch paced from `s`, and what follows on the
cursor it ends on, no larger than it started on. -/
theorem paced_then {n : Nat} {r : Reply n} {D : Cursor → Prop}
    (hr : r.Holds (Paced s₁) fun _ => Paced s₁) (h₀ : Paced s s₁)
    (hk : ∀ s₂ : Cursor, Paced s s₂ → s₂.size ≤ n → D s₂) : r.Holds D fun _ => Paced s :=
  (hr.both r.holds_size).imp (fun s₂ h₂ => hk s₂ (h₀.trans h₂.1) h₂.2) fun _ _ h => h₀.trans h.1

/-- Requiring a lookahead of a kind other than the end token. -/
theorem consume_paced (s : Cursor) {k : Kind} (hk : k ≠ .eof) :
    (s.consume k).Holds (Paced s) fun _ => Paced s :=
  holds_consume (fun _ hs ha => (Paced.refl s).advance ha (by rw [hs]; exact hk))
    (fun _ => Paced.refl s) fun _ => Paced.refl s

/-! ### Expressions -/

theorem exp_paced (s : Cursor)
    (ht : ∀ s' : Cursor, s'.size ≤ s.size → s'.term.Holds (Paced s') fun _ => Paced s')
    (hm : ∀ s' : Cursor, s'.size ≤ s.size → s'.moreTerms.Holds (Paced s') fun _ => Paced s') :
    s.exp.Holds (Paced s) fun _ => Paced s :=
  holds_exp (paced_then (ht _ (Nat.le_refl _)) ((Paced.refl s).note (by simp)) fun s₁ h₁ hle =>
    paced_then (hm s₁ hle) h₁ fun _ h₂ _ => h₂.note (by simp))

theorem moreTerms_paced (s : Cursor)
    (ht : ∀ s' : Cursor, s'.size < s.size → s'.term.Holds (Paced s') fun _ => Paced s')
    (hm : ∀ s' : Cursor, s'.size < s.size → s'.moreTerms.Holds (Paced s') fun _ => Paced s') :
    s.moreTerms.Holds (Paced s) fun _ => Paced s := by
  refine holds_moreTerms (fun hk s₁ ha => ?_) (fun _ _ => Paced.refl s) fun _ => Paced.refl s
  have hlt := size_advance_lt ha (Kind.ne_eof_of_isAddOp hk)
  exact paced_then (ht s₁ hlt) ((Paced.refl s).advance ha (Kind.ne_eof_of_isAddOp hk))
    fun s₂ h₂ hle => paced_then (hm s₂ (Nat.lt_of_le_of_lt hle hlt)) h₂ fun _ h₃ _ => h₃

theorem term_paced (s : Cursor)
    (hf : ∀ s' : Cursor, s'.size ≤ s.size → s'.factor.Holds (Paced s') fun _ => Paced s')
    (hm : ∀ s' : Cursor, s'.size ≤ s.size → s'.moreFactors.Holds (Paced s') fun _ => Paced s') :
    s.term.Holds (Paced s) fun _ => Paced s :=
  holds_term (paced_then (hf _ (Nat.le_refl _)) ((Paced.refl s).note (by simp)) fun s₁ h₁ hle =>
    paced_then (hm s₁ hle) h₁ fun _ h₂ _ => h₂.note (by simp))

theorem moreFactors_paced (s : Cursor)
    (hf : ∀ s' : Cursor, s'.size < s.size → s'.factor.Holds (Paced s') fun _ => Paced s')
    (hm : ∀ s' : Cursor, s'.size < s.size → s'.moreFactors.Holds (Paced s') fun _ => Paced s') :
    s.moreFactors.Holds (Paced s) fun _ => Paced s := by
  refine holds_moreFactors (fun hk s₁ ha => ?_) (fun _ _ => Paced.refl s) fun _ => Paced.refl s
  have hlt := size_advance_lt ha (Kind.ne_eof_of_isMulOp hk)
  exact paced_then (hf s₁ hlt) ((Paced.refl s).advance ha (Kind.ne_eof_of_isMulOp hk))
    fun s₂ h₂ hle => paced_then (hm s₂ (Nat.lt_of_le_of_lt hle hlt)) h₂ fun _ h₃ _ => h₃

theorem factor_paced (s : Cursor)
    (he : ∀ s' : Cursor, s'.size < s.size → s'.exp.Holds (Paced s') fun _ => Paced s') :
    s.factor.Holds (Paced s) fun _ => Paced s := by
  have h₀ : Paced s (s.note (.enter .factor)) := (Paced.refl s).note (by simp)
  refine holds_factor (fun hk s₁ ha => (h₀.advance ha (Kind.ne_eof_of_isOperand hk)).note (by simp))
    (fun hk s₁ ha => ?_) (fun _ => h₀) fun _ _ => h₀
  -- after the `(`, an expression and the `)`
  have hne : (s.note (.enter .factor)).lookahead.kind ≠ .eof := by rw [lookahead_note, hk]; decide
  have hlt := size_advance_lt ha hne
  exact paced_then (he s₁ hlt) (h₀.advance ha hne) fun s₂ h₂ _ =>
    paced_then (consume_paced s₂ (by decide)) h₂ fun _ h₃ _ => h₃.note (by simp)

/-- **The procedures of expressions are paced**: each pulls a token for each token it moves past,
and no other, however it ends. -/
theorem expression_paced :
    (∀ s : Cursor, s.exp.Holds (Paced s) fun _ => Paced s) ∧
    (∀ s : Cursor, s.moreTerms.Holds (Paced s) fun _ => Paced s) ∧
    (∀ s : Cursor, s.term.Holds (Paced s) fun _ => Paced s) ∧
    (∀ s : Cursor, s.moreFactors.Holds (Paced s) fun _ => Paced s) ∧
    (∀ s : Cursor, s.factor.Holds (Paced s) fun _ => Paced s) :=
  expression_induction _ _ _ _ _ exp_paced moreTerms_paced term_paced moreFactors_paced
    factor_paced

/-! ### Statements -/

theorem declaration_paced (s : Cursor) : s.declaration.Holds (Paced s) fun _ => Paced s :=
  holds_declaration (paced_then (consume_paced _ (by decide)) ((Paced.refl s).note (by simp))
    fun s₁ h₁ _ => paced_then (consume_paced s₁ (by decide)) h₁ fun _ h₂ _ => h₂.note (by simp))

theorem assignment_paced (s : Cursor) : s.assignment.Holds (Paced s) fun _ => Paced s := by
  have h₀ : Paced s (s.note (.enter .assignment)) := (Paced.refl s).note (by simp)
  refine holds_assignment (fun hk s₁ ha => ?_) (fun _ _ => h₀) fun _ => h₀
  have h₁ := h₀.advance ha (by rw [lookahead_note, hk]; decide)
  exact paced_then (consume_paced s₁ (by decide)) h₁ fun s₂ h₂ _ =>
    paced_then (expression_paced.1 s₂) h₂ fun _ h₃ _ => h₃.note (by simp)

/-- Recovery skips tokens that end no statement, so none of them is the end token. -/
theorem skipToEnd_paced (s : Cursor) : s.skipToEnd.Holds (Paced s) fun _ => Paced s := by
  induction s using (measure Cursor.size).wf.induction with
  | h s ih =>
    have h₀ : Paced s (s.note (.skip s.lookahead)) := (Paced.refl s).note (by simp)
    refine holds_skipToEnd (fun _ => Paced.refl s) (fun hk s₁ ha => ?_) fun _ _ => h₀
    have hne := Kind.ne_eof_of_endsStatement_eq_false hk
    have hlt := size_advance_lt ha hne
    exact paced_then (ih s₁ hlt) (h₀.advance ha hne) fun _ h₂ _ => h₂

theorem block_paced (s : Cursor)
    (hl : ∀ s' : Cursor, s'.size < s.size → s'.stmtList.Holds (Paced s') fun _ => Paced s') :
    s.block.Holds (Paced s) fun _ => Paced s := by
  have h₀ : Paced s (s.note (.enter .block)) := (Paced.refl s).note (by simp)
  refine holds_block (fun hk s₁ ha => ?_) (fun _ _ => h₀) fun _ => h₀
  -- after the `{`, a statement list and the `}`
  have hne : (s.note (.enter .block)).lookahead.kind ≠ .eof := by rw [lookahead_note, hk]; decide
  have hlt := size_advance_lt ha hne
  exact paced_then (hl s₁ hlt) (h₀.advance ha hne) fun s₂ h₂ _ =>
    paced_then (consume_paced s₂ (by decide)) h₂ fun _ h₃ _ => h₃.note (by simp)

theorem stmtList_paced (s : Cursor)
    (hs : ∀ s' : Cursor, s'.size ≤ s.size → s'.stmt.Holds (Paced s') fun _ => Paced s')
    (hm : ∀ s' : Cursor, s'.size ≤ s.size → s'.moreStmts.Holds (Paced s') fun _ => Paced s') :
    s.stmtList.Holds (Paced s) fun _ => Paced s :=
  holds_stmtList (paced_then (hs _ (Nat.le_refl _)) ((Paced.refl s).note (by simp)) fun s₁ h₁ hle =>
    paced_then (hm s₁ hle) h₁ fun _ h₂ _ => h₂.note (by simp))

theorem moreStmts_paced (s : Cursor)
    (hs : ∀ s' : Cursor, s'.size < s.size → s'.stmt.Holds (Paced s') fun _ => Paced s')
    (hm : ∀ s' : Cursor, s'.size < s.size → s'.moreStmts.Holds (Paced s') fun _ => Paced s') :
    s.moreStmts.Holds (Paced s) fun _ => Paced s := by
  refine holds_moreStmts (fun hk s₁ ha => ?_) (fun _ _ => Paced.refl s) fun _ => Paced.refl s
  have hne : s.lookahead.kind ≠ .eof := by rw [hk]; decide
  have hlt := size_advance_lt ha hne
  exact paced_then (hs s₁ hlt) ((Paced.refl s).advance ha hne) fun s₂ h₂ hle =>
    paced_then (hm s₂ (Nat.lt_of_le_of_lt hle hlt)) h₂ fun _ h₃ _ => h₃

theorem stmt_paced (s : Cursor)
    (hb : ∀ s' : Cursor, s'.size ≤ s.size → s'.block.Holds (Paced s') fun _ => Paced s') :
    s.stmt.Holds (Paced s) fun _ => Paced s := by
  have h₀ : Paced s (s.note (.enter .stmt)) := (Paced.refl s).note (by simp)
  -- recording an error found at `s₁` and skipping to the end of the statement
  have hrecover : ∀ s₁ e, Paced s s₁ → ((s₁.note (.report e)).skipToEnd).Holds
      (fun s₂ => Paced s (s₂.note (.leave .stmt))) fun _ => Paced s := fun s₁ _ h₁ =>
    paced_then (skipToEnd_paced _) (h₁.note (by simp)) fun _ h₂ _ => h₂.note (by simp)
  exact holds_stmt (B := Paced s) (F := fun _ => Paced s)
    (fun _ => paced_then (declaration_paced _) h₀ fun _ h _ => h)
    (fun _ => paced_then (assignment_paced _) h₀ fun _ h _ => h)
    (fun _ => paced_then (hb _ (Nat.le_refl _)) h₀ fun _ h _ => h) (fun _ _ _ => hrecover _ _ h₀)
    (fun _ h _ => h.note (by simp)) (fun s₁ h _ => hrecover s₁ _ h) (fun _ h => h)
    fun _ s₁ h => hrecover s₁ _ h

/-- **The procedures of statements are paced**: each pulls a token for each token it moves past,
and no other, however it ends. -/
theorem statement_paced :
    (∀ s : Cursor, s.block.Holds (Paced s) fun _ => Paced s) ∧
    (∀ s : Cursor, s.stmtList.Holds (Paced s) fun _ => Paced s) ∧
    (∀ s : Cursor, s.moreStmts.Holds (Paced s) fun _ => Paced s) ∧
    (∀ s : Cursor, s.stmt.Holds (Paced s) fun _ => Paced s) :=
  statement_induction _ _ _ _ block_paced stmtList_paced moreStmts_paced stmt_paced


/-! ### Whole checks -/

/-- A block that ends normally has just recorded that it leaves. -/
theorem block_left (s : Cursor) :
    s.block.Holds (fun s' => ∃ s₃ : Cursor, s' = s₃.note (.leave .block)) fun _ _ => True :=
  holds_block (fun _ _ _ => (Reply.holds_true _).imp
      (fun s₂ _ => (Reply.holds_true (s₂.consume .rbrace)).imp (fun s₃ _ => ⟨s₃, rfl⟩)
        fun _ _ h => h) fun _ _ h => h)
    (fun _ _ => trivial) fun _ => trivial

/-- At the end token with no token after it, a pull gives the end token again. -/
theorem advance_at_end (hk : s.lookahead.kind = .eof) (hnil : s.ahead = []) :
    s.advance = some ⟨s.lookahead, [], s.log.push .pull⟩ := by
  simp [advance, hnil, hk]

/-- The program procedure finishes on a cursor satisfying `P` when reading its block and the end
token ends normally where leaving satisfies `P`, or halts on a fault where recording it and
leaving does. -/
theorem program_finished (s₀ : Cursor) {P : Cursor → Prop}
    (hrun : ((s₀.note (.enter .program)).block.bind fun s₁ h₁ => (s₁.consume .eof).widen h₁).Holds
      (fun s₁ => P (s₁.note (.leave .program)))
      fun h s₁ => ∃ e, h = .fault e ∧ P ((s₁.note (.report e)).note (.leave .program))) :
    ∃ g, s₀.program = .finished g ∧ P g := by
  unfold Cursor.program
  dsimp only
  generalize ((s₀.note (.enter .program)).block.bind fun s₁ h₁ => (s₁.consume .eof).widen h₁) = r
    at hrun ⊢
  cases r with
  | done s₁ h₁ => exact ⟨_, rfl, hrun⟩
  | halt h s₁ h₁ =>
    obtain ⟨e, rfl, hp⟩ := hrun
    exact ⟨_, rfl, hp⟩

end Cursor

/-- **The pulls of a check.**  On terminated tokens the check finishes, on a cursor `g` after
moving past the tokens `q`.  It pulled the first token and one token for each token of `q`, and
no other; or, where its block ended at the end token, one more, the end token again, right after
the block left and before the program leaves. -/
theorem check_pulls {toks : List Token} (ht : Terminated toks) :
    ∃ g, check toks = .finished g ∧ ∃ q, toks = q ++ g.tokens ∧
      (g.pulls = q.length + 1 ∨
        (g.pulls = q.length + 2 ∧ g.lookahead.kind = .eof ∧
          ∃ L, g.log.toList = L ++ [.leave .block, .pull, .leave .program])) := by
  cases toks with
  | nil =>
    obtain ⟨p, t, hp, -⟩ := ht
    simp at hp
  | cons t rest =>
    let s := (⟨t, rest, #[.pull]⟩ : Cursor).note (.enter .program)
    have ht' : Terminated s.tokens := ht
    have hr : s.Ready := ht'.ready
    have hs : s.pulls = 1 := by simp [s, Cursor.pulls, Cursor.note]
    -- a program that ends where its block's run ended on `s₁`, having moved past `q`
    have hend : ∀ s₁ q, Cursor.Paced s s₁ → s.tokens = q ++ s₁.tokens → ∀ e,
        ∃ q', t :: rest = q' ++ ((s₁.note (.report e)).note (.leave .program)).tokens ∧
          ((s₁.note (.report e)).note (.leave .program)).pulls = q'.length + 1 := by
      intro s₁ q hp hq e
      refine ⟨q, hq, ?_⟩
      rw [Cursor.pulls_note _ (by simp), Cursor.pulls_note _ (by simp), hp.pulls_eq hq, hs]
      omega
    have hblock := ((Cursor.statement_paced.1 s).both (Cursor.statement_sound.1 s)).both
      (Cursor.block_left s)
    refine Cursor.program_finished _ ((hblock.imp (fun _ h => h) fun h s₁ hh => ?_).bind
      fun s₁ _ hd => (Reply.holds_widen _ _).mpr ?_)
    · -- the block halted, on a fault since the tokens do not run out
      obtain ⟨⟨hp, hl, hu⟩, -⟩ := hh
      cases h with
      | unreadable => exact absurd hr (hu rfl)
      | fault e =>
        obtain ⟨q, hq⟩ := hl.suffix
        obtain ⟨q', h₁, h₂⟩ := hend s₁ q hp hq.symm e
        exact ⟨e, rfl, q', h₁, .inl h₂⟩
    · -- the block ended normally, and the end token must follow
      obtain ⟨⟨hp, hl, -⟩, s₃, rfl⟩ := hd
      obtain ⟨q, hq⟩ := hl.suffix
      refine Cursor.holds_consume (fun s₂ hk ha => ?_)
        (fun ha => absurd (hr.of_suffix hl.suffix) (Cursor.not_ready_of_advance ha))
        fun _ => ?_
      · -- the end token again, with nothing after it
        have hnil : s₃.ahead = [] := by
          have hkinds := ht'.kinds_of_eof hl.suffix hk
          simp only [Cursor.kinds, Cursor.tokens, List.map_cons, List.cons.injEq,
            List.map_eq_nil_iff] at hkinds
          exact hkinds.2
        have hadv := Cursor.advance_at_end hk hnil
        rw [hadv] at ha
        cases ha
        refine ⟨q, hq.symm.trans (by simp [Cursor.tokens, Cursor.note, hnil]), .inr ⟨?_, hk,
          s₃.log.toList, by simp [Cursor.note]⟩⟩
        rw [Cursor.pulls_note _ (by simp), Cursor.pulls_advance hadv, hp.pulls_eq hq.symm, hs]
        omega
      · obtain ⟨q', h₁, h₂⟩ := hend _ q hp hq.symm ⟨.expected .eof, (s₃.note (.leave .block)).lookahead⟩
        exact ⟨_, rfl, q', h₁, .inl h₂⟩

end BlockSyntax
