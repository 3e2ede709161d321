import BlockSyntax.Proofs.StatementCheck

/-! # What a fault expects

A fault names the kinds of token that would have been accepted in place of the one seen
(`Problem.expectedKinds`).  Each of them goes on: the tokens read before the fault, followed by
any one of these kinds, still begin a phrase of the symbol being read (`Expects`).  The checker
tests for exactly these kinds at the place of the fault, so this holds where the fault is found,
and it carries over to the enclosing rules as `ExpHalt` does, through the same `Begins` lemmas.

`expression_expects` proves it for the procedures of expressions by their mutual induction, and
`declaration_expects` and `assignment_expects` for the bodies of statements.
-/

namespace BlockSyntax

namespace Reply

variable {n : Nat} {D E : Cursor → Prop} {H H' : Halt → Cursor → Prop}

/-- Two specifications of one reply hold together. -/
theorem Holds.both {r : Reply n} (h₁ : r.Holds D H) (h₂ : r.Holds E H') :
    r.Holds (fun s => D s ∧ E s) fun h s => H h s ∧ H' h s := by
  cases r with
  | done s _ => exact ⟨h₁, h₂⟩
  | halt e s _ => exact ⟨h₁, h₂⟩

end Reply

namespace Symbol

theorem factor_begins_start {T : Kind} (hT : T ∈ Problem.operand.expectedKinds) :
    factor.Begins [T] := by
  simp only [Problem.expectedKinds, List.mem_cons, List.mem_nil_iff, or_false] at hT
  rcases hT with rfl | rfl | rfl | rfl
  · exact ⟨[], .int⟩
  · exact ⟨[], .float⟩
  · exact ⟨[], .ident⟩
  · exact begins_paren_of_exp (begins_exp_of_term (begins_term_of_factor factor_begins_nil))

/-- After `'(' Exp`, a `)` goes on. -/
theorem begins_paren_rparen {q y : List Kind} (h₁ : Derives .exp (q ++ y) y) :
    factor.Begins (.lparen :: (q ++ [.rparen])) :=
  ⟨[], by simpa using Derives.paren (h₁.shift [.rparen])⟩

theorem stmt_begins_type_ident : stmt.Begins [.type, .ident] := ⟨[], .declaration⟩

theorem stmt_begins_assign : stmt.Begins [.ident, .assign] :=
  begins_assignment_of_exp (begins_exp_of_term (begins_term_of_factor factor_begins_nil))

end Symbol

namespace Cursor

/-- A procedure reading `sym` from `s` halted on `s'`: if on a fault, every kind the fault
expects, after the tokens read before it, still begins a phrase of `sym`. -/
def Expects (sym : Symbol) (s : Cursor) : Halt → Cursor → Prop
  | .unreadable, _ => True
  | .fault e, s' => ∃ q, s.tokens = q ++ s'.tokens ∧
      ∀ T ∈ e.problem.expectedKinds, sym.Begins (q.map Token.kind ++ [T])

/-- A halt inside a part of a rule, after the tokens `u` of the parts before it, is a halt of the
rule, given how the rule's beginnings extend the part's. -/
theorem Expects.after {sym₁ sym : Symbol} {s s₁ s' : Cursor} {h : Halt} {u : List Token}
    (hh : Expects sym₁ s₁ h s') (hq : s.tokens = u ++ s₁.tokens)
    (hbegins : ∀ p, sym₁.Begins p → sym.Begins (u.map Token.kind ++ p)) :
    Expects sym s h s' := by
  cases h with
  | unreadable => trivial
  | fault e =>
    obtain ⟨q, hq₁, hT⟩ := hh
    refine ⟨u ++ q, by rw [hq, hq₁, List.append_assoc], fun T hT' => ?_⟩
    simpa using hbegins _ (hT T hT')

/-- The same, for a halt at the start of a procedure, after it noted that it started. -/
theorem Expects.first {sym₁ sym : Symbol} {s s' : Cursor} {h : Halt} {e : Event}
    (hh : Expects sym₁ (s.note e) h s') (hbegins : ∀ p, sym₁.Begins p → sym.Begins p) :
    Expects sym s h s' :=
  hh.after (u := []) rfl hbegins

/-- A halt after the first token was read. -/
theorem Expects.after_token {sym₁ sym : Symbol} {s s₁ s' : Cursor} {h : Halt}
    (hh : Expects sym₁ s₁ h s') (ha : s.advance = some s₁) (hk : s.lookahead.kind ≠ .eof)
    (hbegins : ∀ p, sym₁.Begins p → sym.Begins (s.lookahead.kind :: p)) :
    Expects sym s h s' :=
  hh.after (tokens_of_advance ha hk) hbegins

/-- A halt in the second part of a rule of two parts. -/
theorem Expects.after_phrase {sym₁ sym₂ sym : Symbol} {s s₁ s' : Cursor} {h : Halt}
    (hh : Expects sym₂ s₁ h s') (hd : ExpDone sym₁ s s₁)
    (hbegins : ∀ q y p, Derives sym₁ (q ++ y) y → sym₂.Begins p → sym.Begins (q ++ p)) :
    Expects sym s h s' := by
  obtain ⟨q, hq, hder⟩ := hd.consumed
  exact hh.after hq fun p hb => hbegins _ _ p hder hb

/-- A halt in a repetition after an operator and the phrase after it. -/
theorem Expects.after_token_phrase {sym₁ sym₂ sym : Symbol} {s s₁ s₂ s' : Cursor} {h : Halt}
    (hh : Expects sym₂ s₂ h s') (ha : s.advance = some s₁) (hk : s.lookahead.kind ≠ .eof)
    (hd : ExpDone sym₁ s₁ s₂)
    (hbegins : ∀ q y p, Derives sym₁ (q ++ y) y → sym₂.Begins p →
      sym.Begins (s.lookahead.kind :: (q ++ p))) :
    Expects sym s h s' := by
  obtain ⟨q, hq, hder⟩ := hd.consumed
  refine hh.after (u := s.lookahead :: q) ?_ fun p hb => ?_
  · rw [tokens_of_advance ha hk, hq]; rfl
  · simpa using hbegins _ _ p hder hb

/-- **What the procedures of expressions expect.**  Every fault of `exp`, `moreTerms`, `term`,
`moreFactors` and `factor` expects only kinds that go on with what was read. -/
theorem expression_expects :
    (∀ s : Cursor, s.exp.Holds (fun _ => True) (Expects .exp s)) ∧
    (∀ s : Cursor, s.moreTerms.Holds (fun _ => True) (Expects .moreTerms s)) ∧
    (∀ s : Cursor, s.term.Holds (fun _ => True) (Expects .term s)) ∧
    (∀ s : Cursor, s.moreFactors.Holds (fun _ => True) (Expects .moreFactors s)) ∧
    (∀ s : Cursor, s.factor.Holds (fun _ => True) (Expects .factor s)) := by
  have henter : ∀ p, (Event.enter p).error? = none := fun _ => rfl
  apply Cursor.exp.mutual_induct
    (fun s => s.exp.Holds (fun _ => True) (Expects .exp s))
    (fun s => s.moreTerms.Holds (fun _ => True) (Expects .moreTerms s))
    (fun s => s.term.Holds (fun _ => True) (Expects .term s))
    (fun s => s.moreFactors.Holds (fun _ => True) (Expects .moreFactors s))
    (fun s => s.factor.Holds (fun _ => True) (Expects .factor s))
  -- the calls' normal endings come from `expression_spec`, their faults from the induction
  case _ => -- exp: a term, then its repetition
    intro s₀
    dsimp only
    intro hterm hmore
    rw [Cursor.exp]
    refine Reply.Holds.bind (E := fun _ => True) ?_ fun _ _ _ => trivial
    refine ((hterm.both (expression_spec.2.2.1 _)).imp (fun _ h => h.2) fun h s' hh => ?_).bind
      fun s₁ h₁ hd₁ => (Reply.holds_widen _ _).mpr ((hmore s₁ h₁).imp (fun _ _ => trivial)
        fun h s' hh => ?_)
    · exact hh.1.first fun _ => Symbol.begins_exp_of_term
    · exact hh.after_phrase (hd₁.note_left (henter _)) fun _ _ _ => Symbol.begins_exp_of_moreTerms
  case _ => -- moreTerms: an operator, and no token after it
    intro s hk ha
    rw [Cursor.moreTerms, dif_pos hk]
    split
    · exact (holds_stop s).mpr trivial
    · next ha' => rw [ha] at ha'; cases ha'
  case _ => -- moreTerms: an operator, a term, and the rest of the repetition
    intro s hk s₁ ha _ hterm hmore
    have hne := Kind.ne_eof_of_isAddOp hk
    have hop := Kind.isAddOp_iff.mp hk
    rw [Cursor.moreTerms, dif_pos hk]
    split
    · next ha' => rw [ha] at ha'; cases ha'
    · next s₁' ha' =>
      rw [ha] at ha'
      cases ha'
      dsimp only
      refine (Reply.holds_widen _ _).mpr ?_
      refine ((hterm.both (expression_spec.2.2.1 _)).imp (fun _ h => h.2) fun h s' hh => ?_).bind
        fun s₂ h₂ hd₂ => (Reply.holds_widen _ _).mpr ((hmore s₂ h₂).imp (fun _ _ => trivial)
          fun h s' hh => ?_)
      · exact hh.1.after_token ha hne fun _ => Symbol.begins_moreTerms_of_term hop
      · exact hh.after_token_phrase ha hne hd₂
          fun _ _ _ => Symbol.begins_moreTerms_of_moreTerms hop
  case _ => -- moreTerms: no operator, the repetition is empty
    intro s hk
    rw [Cursor.moreTerms, dif_neg hk, holds_finish]
    trivial
  case _ => -- term: a factor, then its repetition
    intro s₀
    dsimp only
    intro hfactor hmore
    rw [Cursor.term]
    refine Reply.Holds.bind (E := fun _ => True) ?_ fun _ _ _ => trivial
    refine ((hfactor.both (expression_spec.2.2.2.2 _)).imp (fun _ h => h.2) fun h s' hh => ?_).bind
      fun s₁ h₁ hd₁ => (Reply.holds_widen _ _).mpr ((hmore s₁ h₁).imp (fun _ _ => trivial)
        fun h s' hh => ?_)
    · exact hh.1.first fun _ => Symbol.begins_term_of_factor
    · exact hh.after_phrase (hd₁.note_left (henter _))
        fun _ _ _ => Symbol.begins_term_of_moreFactors
  case _ => -- moreFactors: an operator, and no token after it
    intro s hk ha
    rw [Cursor.moreFactors, dif_pos hk]
    split
    · exact (holds_stop s).mpr trivial
    · next ha' => rw [ha] at ha'; cases ha'
  case _ => -- moreFactors: an operator, a factor, and the rest of the repetition
    intro s hk s₁ ha _ hfactor hmore
    have hne : s.lookahead.kind ≠ .eof := Kind.ne_eof_of_isMulOp hk
    have hop := Kind.isMulOp_iff.mp hk
    rw [Cursor.moreFactors, dif_pos hk]
    split
    · next ha' => rw [ha] at ha'; cases ha'
    · next s₁' ha' =>
      rw [ha] at ha'
      cases ha'
      dsimp only
      refine (Reply.holds_widen _ _).mpr ?_
      refine ((hfactor.both (expression_spec.2.2.2.2 _)).imp (fun _ h => h.2)
        fun h s' hh => ?_).bind fun s₂ h₂ hd₂ => (Reply.holds_widen _ _).mpr
          ((hmore s₂ h₂).imp (fun _ _ => trivial) fun h s' hh => ?_)
      · exact hh.1.after_token ha hne fun _ => Symbol.begins_moreFactors_of_factor hop
      · exact hh.after_token_phrase ha hne hd₂
          fun _ _ _ => Symbol.begins_moreFactors_of_moreFactors hop
  case _ => -- moreFactors: no operator, the repetition is empty
    intro s hk
    rw [Cursor.moreFactors, dif_neg hk, holds_finish]
    trivial
  case _ => -- factor: an operand, and no token after it
    intro s₀
    dsimp only
    intro hk ha
    rw [Cursor.factor, if_pos hk]
    split
    · exact (holds_stop _).mpr trivial
    · next ha' => rw [ha] at ha'; cases ha'
  case _ => -- factor: an operand
    intro s₀
    dsimp only
    intro hk s₁ ha
    rw [Cursor.factor, if_pos hk]
    split
    · next ha' => rw [ha] at ha'; cases ha'
    · trivial
  case _ => -- factor: a parenthesis, and no token after it
    intro s₀
    dsimp only
    intro hnot hk ha
    rw [Cursor.factor, if_neg hnot]
    refine Reply.holds_dite (fun _ => ?_) fun hk' => absurd hk hk'
    split
    · exact (holds_stop _).mpr trivial
    · next ha' => rw [ha] at ha'; cases ha'
  case _ => -- factor: a parenthesis, an expression and the closing parenthesis
    intro s₀
    dsimp only
    intro hnot hk s₁ ha _ hexp
    have hne : (s₀.note (.enter .factor)).lookahead.kind ≠ .eof := by rw [hk]; simp
    rw [Cursor.factor, if_neg hnot]
    refine Reply.holds_dite (fun _ => ?_) fun hk' => absurd hk hk'
    split
    · next ha' => rw [ha] at ha'; cases ha'
    · next s₁' ha' =>
      rw [ha] at ha'
      cases ha'
      dsimp only
      refine (Reply.holds_widen _ _).mpr ?_
      refine ((hexp.both (expression_spec.1 _)).imp (fun _ h => h.2) fun h s' hh => ?_).bind
        fun s₂ h₂ hd₂ => ?_
      · refine (hh.1.after_token ha hne fun _ hb => ?_).first fun _ h => h
        rw [hk]
        exact Symbol.begins_paren_of_exp hb
      · -- only a `)` is expected after the expression
        obtain ⟨q, hq, hder⟩ := hd₂.consumed
        refine Reply.Holds.bind (E := fun _ => True) ((Reply.holds_widen _ _).mpr
          (holds_consume (fun _ _ _ => trivial) (fun _ => trivial) fun _ => ?_))
          fun _ _ _ => trivial
        refine ⟨s₀.lookahead :: q, ?_, fun T hT => ?_⟩
        · have := tokens_of_advance ha hne
          simp only [tokens_note, lookahead_note] at this
          rw [this, hq]
          rfl
        · have hp : s₀.lookahead.kind = .lparen := by simpa using hk
          simp only [Problem.expectedKinds, List.mem_singleton] at hT
          subst hT
          simpa [hp] using Symbol.begins_paren_rparen hder
  case _ => -- factor: no operand
    intro s₀
    dsimp only
    intro hnot hk
    rw [Cursor.factor, if_neg hnot]
    refine Reply.holds_dite (fun hk' => absurd hk' hk) fun _ => (holds_fail _ _).mpr ?_
    exact ⟨[], rfl, fun T hT => Symbol.factor_begins_start hT⟩

/-- **Declarations.**  After a type only an identifier is expected. -/
theorem declaration_expects (s₀ : Cursor) (hk : s₀.lookahead.kind = .type) :
    s₀.declaration.Holds (fun _ => True) (Expects .stmt s₀) := by
  refine holds_declaration (holds_consume (fun s₁ _ ha₁ => ?_) (fun _ => trivial)
    fun hne => absurd hk hne)
  have ht₁ : s₀.tokens = [s₀.lookahead] ++ s₁.tokens :=
    tokens_of_advance (s := s₀.note (.enter .declaration)) ha₁ (ne_eof_of_kind_eq hk (by decide))
  refine holds_consume (fun _ _ _ => trivial) (fun _ => trivial) fun _ => ⟨[s₀.lookahead], ht₁, ?_⟩
  intro T hT
  simp only [Problem.expectedKinds, List.mem_singleton] at hT
  subst hT
  simpa [hk] using Symbol.stmt_begins_type_ident

/-- **Assignments.**  After an identifier only `=` is expected, and after `=` what an expression
expects. -/
theorem assignment_expects (s₀ : Cursor) (hk : s₀.lookahead.kind = .ident) :
    s₀.assignment.Holds (fun _ => True) (Expects .stmt s₀) := by
  refine holds_assignment (fun _ s₁ ha₁ => ?_) (fun _ _ => trivial) fun hne => absurd hk hne
  have ht₁ : s₀.tokens = [s₀.lookahead] ++ s₁.tokens :=
    tokens_of_advance (s := s₀.note (.enter .assignment)) ha₁ (ne_eof_of_kind_eq hk (by decide))
  refine holds_consume (fun s₂ hk₂ ha₂ => ?_) (fun _ => trivial) fun _ => ⟨[s₀.lookahead], ht₁, ?_⟩
  · -- the expression after the `=`
    have ht₂ : s₀.tokens = [s₀.lookahead, s₁.lookahead] ++ s₂.tokens := by
      rw [ht₁, tokens_of_advance ha₂ (ne_eof_of_kind_eq hk₂ (by decide))]; rfl
    refine (expression_expects.1 s₂).imp (fun _ _ => trivial) fun h s' hh => hh.after ht₂ ?_
    intro p hb
    simpa [hk, hk₂] using Symbol.begins_assignment_of_exp hb
  · intro T hT
    simp only [Problem.expectedKinds, List.mem_singleton] at hT
    subst hT
    simpa [hk] using Symbol.stmt_begins_assign

end Cursor

end BlockSyntax
