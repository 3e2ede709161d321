import BlockSyntax.Proofs.ReplyLogic

/-! # One rule per procedure of expressions

As for statements, each rule says how a procedure of expressions ends, given how the calls in its
body end, so that a proof about expressions walks each body once and never unfolds it.

The five procedures call each other on cursors that never grow, and on a smaller one after each
token they move past: `exp` calls `term` and the repetition of terms, `term` calls `factor` and
the repetition of factors, and `factor` calls `exp` only after a `(`.  `expression_induction` is
the induction this gives, on `4 * size` plus the procedure's rank, as in the definitions: each
procedure may assume the others on cursors no larger, or smaller where its body read a token
first.
-/

namespace BlockSyntax

namespace Reply

variable {n : Nat} {D : Cursor → Prop} {H : Halt → Cursor → Prop}

/-- Every reply satisfies the empty specification. -/
theorem holds_true (r : Reply n) : r.Holds (fun _ => True) fun _ _ => True := by
  cases r <;> trivial

/-- A reply ends on a cursor no larger than the one its procedure started on. -/
theorem holds_size (r : Reply n) : r.Holds (fun s => s.size ≤ n) fun _ s => s.size ≤ n := by
  cases r with
  | done s h => exact h
  | halt e s h => exact h

end Reply

namespace Cursor

variable {D : Cursor → Prop} {H : Halt → Cursor → Prop}

/-- `Exp ::= Term { ('+' | '-') Term }`. -/
theorem holds_exp {s₀ : Cursor}
    (h : (s₀.note (.enter .exp)).term.Holds
      (fun s₁ => s₁.moreTerms.Holds (fun s₂ => D (s₂.note (.leave .exp))) H) H) :
    s₀.exp.Holds D H := by
  rw [Cursor.exp]
  exact (h.bind fun _ _ hd => (Reply.holds_widen _ _).mpr hd).bind fun _ _ hd => hd

/-- The repetition `{ ('+' | '-') Term }`. -/
theorem holds_moreTerms {s : Cursor}
    (hop : s.lookahead.kind.isAddOp = true → ∀ s₁, s.advance = some s₁ →
      s₁.term.Holds (fun s₂ => s₂.moreTerms.Holds D H) H)
    (hnone : s.lookahead.kind.isAddOp = true → s.advance = none → H .unreadable s)
    (hend : s.lookahead.kind.isAddOp = false → D s) :
    s.moreTerms.Holds D H := by
  rw [Cursor.moreTerms]
  refine Reply.holds_dite (fun hk => ?_) fun hk =>
    (holds_finish _).mpr (hend (Bool.eq_false_iff.mpr hk))
  split
  · next ha => exact (holds_stop _).mpr (hnone hk ha)
  · next s₁ ha =>
    dsimp only
    exact (Reply.holds_widen _ _).mpr
      ((hop hk s₁ ha).bind fun _ _ hd => (Reply.holds_widen _ _).mpr hd)

/-- `Term ::= Factor { ('*' | '/' | '%') Factor }`. -/
theorem holds_term {s₀ : Cursor}
    (h : (s₀.note (.enter .term)).factor.Holds
      (fun s₁ => s₁.moreFactors.Holds (fun s₂ => D (s₂.note (.leave .term))) H) H) :
    s₀.term.Holds D H := by
  rw [Cursor.term]
  exact (h.bind fun _ _ hd => (Reply.holds_widen _ _).mpr hd).bind fun _ _ hd => hd

/-- The repetition `{ ('*' | '/' | '%') Factor }`. -/
theorem holds_moreFactors {s : Cursor}
    (hop : s.lookahead.kind.isMulOp = true → ∀ s₁, s.advance = some s₁ →
      s₁.factor.Holds (fun s₂ => s₂.moreFactors.Holds D H) H)
    (hnone : s.lookahead.kind.isMulOp = true → s.advance = none → H .unreadable s)
    (hend : s.lookahead.kind.isMulOp = false → D s) :
    s.moreFactors.Holds D H := by
  rw [Cursor.moreFactors]
  refine Reply.holds_dite (fun hk => ?_) fun hk =>
    (holds_finish _).mpr (hend (Bool.eq_false_iff.mpr hk))
  split
  · next ha => exact (holds_stop _).mpr (hnone hk ha)
  · next s₁ ha =>
    dsimp only
    exact (Reply.holds_widen _ _).mpr
      ((hop hk s₁ ha).bind fun _ _ hd => (Reply.holds_widen _ _).mpr hd)

/-- `Factor ::= INT | FLOAT | IDENT | '(' Exp ')'`. -/
theorem holds_factor {s₀ : Cursor}
    (hoperand : s₀.lookahead.kind.isOperand = true → ∀ s₁,
      (s₀.note (.enter .factor)).advance = some s₁ → D (s₁.note (.leave .factor)))
    (hparen : s₀.lookahead.kind = .lparen → ∀ s₁, (s₀.note (.enter .factor)).advance = some s₁ →
      s₁.exp.Holds
        (fun s₂ => (s₂.consume .rparen).Holds (fun s₃ => D (s₃.note (.leave .factor))) H) H)
    (hnone : (s₀.note (.enter .factor)).advance = none →
      H .unreadable (s₀.note (.enter .factor)))
    (hfail : s₀.lookahead.kind.isOperand = false → s₀.lookahead.kind ≠ .lparen →
      H (.fault ⟨.operand, s₀.lookahead⟩) (s₀.note (.enter .factor))) :
    s₀.factor.Holds D H := by
  rw [Cursor.factor]
  by_cases hk : (s₀.note (.enter .factor)).lookahead.kind.isOperand = true
  · rw [if_pos hk]
    split
    · next ha => exact (holds_stop _).mpr (hnone ha)
    · next s₁ ha => exact hoperand hk s₁ ha
  · rw [if_neg hk]
    refine Reply.holds_dite (fun hp => ?_) fun hp =>
      (holds_fail _ _).mpr (hfail (Bool.eq_false_iff.mpr hk) hp)
    split
    · next ha => exact (holds_stop _).mpr (hnone ha)
    · next s₁ ha =>
      dsimp only
      refine (Reply.holds_widen _ _).mpr ((hparen hp s₁ ha).bind fun s₂ _ hd₂ => ?_)
      exact ((Reply.holds_widen _ _).mpr hd₂).bind fun _ _ hd₃ => hd₃

/-- **Induction over the procedures of expressions**, on `4 * size` plus the rank of the
procedure (`exp` 3, `term` 2, `factor` 1, the repetitions 0): each may assume what it calls on
cursors no larger, or smaller after a token it moved past. -/
theorem expression_induction (E MT T MF F : Cursor → Prop)
    (hexp : ∀ s : Cursor, (∀ s' : Cursor, s'.size ≤ s.size → T s') →
      (∀ s' : Cursor, s'.size ≤ s.size → MT s') → E s)
    (hmoreTerms : ∀ s : Cursor, (∀ s' : Cursor, s'.size < s.size → T s') →
      (∀ s' : Cursor, s'.size < s.size → MT s') → MT s)
    (hterm : ∀ s : Cursor, (∀ s' : Cursor, s'.size ≤ s.size → F s') →
      (∀ s' : Cursor, s'.size ≤ s.size → MF s') → T s)
    (hmoreFactors : ∀ s : Cursor, (∀ s' : Cursor, s'.size < s.size → F s') →
      (∀ s' : Cursor, s'.size < s.size → MF s') → MF s)
    (hfactor : ∀ s : Cursor, (∀ s' : Cursor, s'.size < s.size → E s') → F s) :
    (∀ s, E s) ∧ (∀ s, MT s) ∧ (∀ s, T s) ∧ (∀ s, MF s) ∧ (∀ s, F s) := by
  -- everything below the measure `m` holds, for every `m`
  have hall : ∀ m : Nat, (∀ s : Cursor, 4 * s.size + 3 < m → E s) ∧
      (∀ s : Cursor, 4 * s.size < m → MT s) ∧ (∀ s : Cursor, 4 * s.size + 2 < m → T s) ∧
      (∀ s : Cursor, 4 * s.size < m → MF s) ∧ (∀ s : Cursor, 4 * s.size + 1 < m → F s) := by
    intro m
    induction m with
    | zero =>
      exact ⟨fun _ h => absurd h (Nat.not_lt_zero _), fun _ h => absurd h (Nat.not_lt_zero _),
        fun _ h => absurd h (Nat.not_lt_zero _), fun _ h => absurd h (Nat.not_lt_zero _),
        fun _ h => absurd h (Nat.not_lt_zero _)⟩
    | succ m ih =>
      obtain ⟨ihE, ihMT, ihT, ihMF, ihF⟩ := ih
      refine ⟨fun s hs => hexp s (fun s' h => ihT s' (by omega)) fun s' h => ihMT s' (by omega),
        fun s hs => hmoreTerms s (fun s' h => ihT s' (by omega)) fun s' h => ihMT s' (by omega),
        fun s hs => hterm s (fun s' h => ihF s' (by omega)) fun s' h => ihMF s' (by omega),
        fun s hs => hmoreFactors s (fun s' h => ihF s' (by omega)) fun s' h => ihMF s' (by omega),
        fun s hs => hfactor s fun s' h => ihE s' (by omega)⟩
  exact ⟨fun s => (hall _).1 s (Nat.lt_succ_self _), fun s => (hall (4 * s.size + 1)).2.1 s (by omega),
    fun s => (hall _).2.2.1 s (Nat.lt_succ_self _), fun s => (hall (4 * s.size + 1)).2.2.2.1 s (by omega),
    fun s => (hall _).2.2.2.2 s (Nat.lt_succ_self _)⟩

end Cursor

end BlockSyntax
