import BlockSyntax.Proofs.ReplyLogic

/-! # What the procedures of expressions do

The five procedures `exp`, `moreTerms`, `term`, `moreFactors` and `factor` record no error.  When
one of them, reading the symbol `sym`, ends normally, it has read a phrase of `sym` and stopped
where the phrase is closed (`ExpDone`).  When it halts on a fault, the fault is at the lookahead:
the tokens read before it begin a phrase of `sym`, and with the lookahead they are no longer
viable (`ExpHalt`).  So the error is found at the first token that no phrase can go on with.  The
tokens run out only when they do not end with the end token.

`expression_spec` proves all five by the procedures' own mutual induction, one case per branch.
-/

namespace BlockSyntax

namespace Cursor

/-- A procedure reading `sym` from `s` ended normally on `s'`: it recorded no error, read a phrase
of `sym`, and stopped where the phrase is closed. -/
def ExpDone (sym : Symbol) (s s' : Cursor) : Prop :=
  s.Quiet s' ∧ Derives sym s.kinds s'.kinds ∧ sym.Closes s'.lookahead.kind

/-- A procedure reading `sym` from `s` halted on `s'`: it recorded no error; it ran out of tokens
only if they do not end with the end token; and it found a fault only at the lookahead, after
tokens `q` that begin a phrase of `sym` and that the lookahead makes non-viable. -/
def ExpHalt (sym : Symbol) (s : Cursor) : Halt → Cursor → Prop
  | .unreadable, s' => s.Quiet s' ∧ ¬ s.Ready
  | .fault e, s' => s.Quiet s' ∧ e.token = s'.lookahead ∧ ∃ q, s.tokens = q ++ s'.tokens ∧
      sym.Begins (q.map Token.kind) ∧ ¬ sym.Viable (q.map Token.kind ++ [e.token.kind])

theorem kinds_eq_of_tokens {s s' : Cursor} {q : List Token} (h : s.tokens = q ++ s'.tokens) :
    s.kinds = q.map Token.kind ++ s'.kinds := by
  simp [kinds, h]

/-- The kinds read before a lookahead, followed by the lookahead, begin with the kind of the first
token read. -/
theorem head_read {s s' : Cursor} {q : List Token} (h : s.tokens = q ++ s'.tokens) :
    (q.map Token.kind ++ [s'.lookahead.kind]).head? = some s.lookahead.kind := by
  cases q with
  | nil =>
    simp only [List.nil_append, tokens, List.cons.injEq] at h
    simp [h.1]
  | cons t q =>
    simp only [List.cons_append, tokens, List.cons.injEq] at h
    simp [h.1]

theorem Quiet.consumed {s s' : Cursor} (h : s.Quiet s') : ∃ q, s.tokens = q ++ s'.tokens := by
  obtain ⟨q, hq⟩ := h.suffix
  exact ⟨q, hq.symm⟩

theorem quiet_note_left {s s' : Cursor} {e : Event} (he : e.error? = none) :
    (s.note e).Quiet s' ↔ s.Quiet s' := by
  constructor <;> rintro ⟨h₁, h₂⟩ <;> exact ⟨h₁, by simpa [he] using h₂⟩

theorem ExpDone.note_left {sym : Symbol} {s s' : Cursor} {e : Event} (he : e.error? = none)
    (h : ExpDone sym (s.note e) s') : ExpDone sym s s' :=
  ⟨(quiet_note_left he).mp h.1, h.2⟩

theorem ExpDone.note {sym : Symbol} {s s' : Cursor} (h : ExpDone sym s s') {e : Event}
    (he : e.error? = none) : ExpDone sym s (s'.note e) :=
  ⟨h.1.note he, h.2⟩

/-- A halt inside a part of a rule, after the tokens `u` of the parts before it, is a halt of the
rule, given how the rule's viable prefixes extend the part's. -/
theorem ExpHalt.after {sym₁ sym : Symbol} {s s₁ s' : Cursor} {h : Halt} {u : List Token}
    (hh : ExpHalt sym₁ s₁ h s') (hq : s.tokens = u ++ s₁.tokens) (hs : s.Quiet s₁)
    (hbegins : ∀ p, sym₁.Begins p → sym.Begins (u.map Token.kind ++ p))
    (hstuck : ∀ p, p.head? = some s₁.lookahead.kind → ¬ sym₁.Viable p →
      ¬ sym.Viable (u.map Token.kind ++ p)) :
    ExpHalt sym s h s' := by
  cases h with
  | unreadable =>
    obtain ⟨hquiet, hready⟩ := hh
    exact ⟨hs.trans hquiet, fun hr => hready (hr.of_suffix hs.suffix)⟩
  | fault e =>
    obtain ⟨hquiet, htok, q, hq₂, hb, hv⟩ := hh
    refine ⟨hs.trans hquiet, htok, u ++ q, by rw [hq, hq₂, List.append_assoc], ?_, ?_⟩
    · simpa using hbegins _ hb
    · have hhead := head_read hq₂
      rw [← htok] at hhead
      simpa using hstuck _ hhead hv

/-- The same, for a halt at the start of a procedure, after it noted that it started. -/
theorem ExpHalt.first {sym₁ sym : Symbol} {s s' : Cursor} {h : Halt} {e : Event}
    (he : e.error? = none) (hh : ExpHalt sym₁ (s.note e) h s')
    (hbegins : ∀ p, sym₁.Begins p → sym.Begins p) (hstuck : ∀ p, ¬ sym₁.Viable p → ¬ sym.Viable p) :
    ExpHalt sym s h s' :=
  hh.after (u := []) rfl ⟨List.suffix_refl _, by simp [he]⟩ hbegins (fun p _ => hstuck p)

/-- The tokens ran out before the end token, after a quiet stretch. -/
theorem ExpHalt.stop {sym : Symbol} {s s₁ : Cursor} (hq : s.Quiet s₁) (ha : s₁.advance = none) :
    ExpHalt sym s .unreadable s₁ :=
  ⟨hq, fun hr => not_ready_of_advance ha (hr.of_suffix hq.suffix)⟩

theorem closedBy_of_head {sym : Symbol} {p : List Kind} {k : Kind} (hp : p.head? = some k)
    (hk : sym.Closes k) : sym.ClosedBy p := by
  cases p with
  | nil => cases hp
  | cons k' p =>
    simp only [List.head?_cons, Option.some.injEq] at hp
    exact hp ▸ hk

/-- A procedure that ended normally read a phrase `q` from its start. -/
theorem ExpDone.consumed {sym : Symbol} {s s' : Cursor} (h : ExpDone sym s s') :
    ∃ q, s.tokens = q ++ s'.tokens ∧ Derives sym (q.map Token.kind ++ s'.kinds) s'.kinds := by
  obtain ⟨q, hq⟩ := h.1.consumed
  exact ⟨q, hq, kinds_eq_of_tokens hq ▸ h.2.1⟩

/-- Moving past a lookahead that is not the end token reads exactly that token. -/
theorem tokens_of_advance {s s' : Cursor} (h : s.advance = some s') (hk : s.lookahead.kind ≠ .eof) :
    s.tokens = [s.lookahead] ++ s'.tokens :=
  (advance_spec h).2.2 hk

/-- A halt after the first token was read, in a rule whose first part is that token. -/
theorem ExpHalt.after_token {sym₁ sym : Symbol} {s s₁ s' : Cursor} {h : Halt}
    (hh : ExpHalt sym₁ s₁ h s') (ha : s.advance = some s₁) (hk : s.lookahead.kind ≠ .eof)
    (hbegins : ∀ p, sym₁.Begins p → sym.Begins (s.lookahead.kind :: p))
    (hstuck : ∀ p, ¬ sym₁.Viable p → ¬ sym.Viable (s.lookahead.kind :: p)) :
    ExpHalt sym s h s' :=
  hh.after (tokens_of_advance ha hk) (Quiet.advance ha) hbegins (fun p _ => hstuck p)

/-- A halt in a repetition after an operator and the phrase after it. -/
theorem ExpHalt.after_token_phrase {sym₁ sym₂ sym : Symbol} {s s₁ s₂ s' : Cursor} {h : Halt}
    (hh : ExpHalt sym₂ s₂ h s') (ha : s.advance = some s₁) (hk : s.lookahead.kind ≠ .eof)
    (hd : ExpDone sym₁ s₁ s₂)
    (hbegins : ∀ q y p, Derives sym₁ (q ++ y) y → sym₂.Begins p →
      sym.Begins (s.lookahead.kind :: (q ++ p)))
    (hstuck : ∀ q y p, Derives sym₁ (q ++ y) y → sym₁.ClosedBy p → ¬ sym₂.Viable p →
      ¬ sym.Viable (s.lookahead.kind :: (q ++ p))) :
    ExpHalt sym s h s' := by
  obtain ⟨q, hq, hder⟩ := hd.consumed
  refine hh.after (u := s.lookahead :: q) ?_ ((Quiet.advance ha).trans hd.1) (fun p hb => ?_)
    (fun p hp hv => ?_)
  · rw [tokens_of_advance ha hk, hq]; rfl
  · simpa using hbegins _ _ p hder hb
  · simpa using hstuck _ _ p hder (closedBy_of_head hp hd.2.2) hv

/-- A halt in the second part of a rule of two parts. -/
theorem ExpHalt.after_phrase {sym₁ sym₂ sym : Symbol} {s s₁ s' : Cursor} {h : Halt}
    (hh : ExpHalt sym₂ s₁ h s') (hd : ExpDone sym₁ s s₁)
    (hbegins : ∀ q y p, Derives sym₁ (q ++ y) y → sym₂.Begins p → sym.Begins (q ++ p))
    (hstuck : ∀ q y p, Derives sym₁ (q ++ y) y → sym₁.ClosedBy p → ¬ sym₂.Viable p →
      ¬ sym.Viable (q ++ p)) :
    ExpHalt sym s h s' := by
  obtain ⟨q, hq, hder⟩ := hd.consumed
  exact hh.after hq hd.1 (fun p hb => hbegins _ _ p hder hb)
    (fun p hp hv => hstuck _ _ p hder (closedBy_of_head hp hd.2.2) hv)

theorem kinds_of_advance {s s' : Cursor} (h : s.advance = some s') (hk : s.lookahead.kind ≠ .eof) :
    s.kinds = s.lookahead.kind :: s'.kinds := by
  simp [kinds_eq_of_tokens (tokens_of_advance h hk)]

/-- **The procedures of expressions.**  Each ends as `ExpDone` or `ExpHalt` say, `moreTerms`
when it starts after a term, as it always does. -/
theorem expression_spec :
    (∀ s : Cursor, s.exp.Holds (ExpDone .exp s) (ExpHalt .exp s)) ∧
    (∀ s : Cursor, s.lookahead.kind.isMulOp = false →
      s.moreTerms.Holds (ExpDone .moreTerms s) (ExpHalt .moreTerms s)) ∧
    (∀ s : Cursor, s.term.Holds (ExpDone .term s) (ExpHalt .term s)) ∧
    (∀ s : Cursor, s.moreFactors.Holds (ExpDone .moreFactors s) (ExpHalt .moreFactors s)) ∧
    (∀ s : Cursor, s.factor.Holds (ExpDone .factor s) (ExpHalt .factor s)) := by
  have henter : ∀ p, (Event.enter p).error? = none := fun _ => rfl
  have hleave : ∀ p, (Event.leave p).error? = none := fun _ => rfl
  apply Cursor.exp.mutual_induct
    (fun s => s.exp.Holds (ExpDone .exp s) (ExpHalt .exp s))
    (fun s => s.lookahead.kind.isMulOp = false →
      s.moreTerms.Holds (ExpDone .moreTerms s) (ExpHalt .moreTerms s))
    (fun s => s.term.Holds (ExpDone .term s) (ExpHalt .term s))
    (fun s => s.moreFactors.Holds (ExpDone .moreFactors s) (ExpHalt .moreFactors s))
    (fun s => s.factor.Holds (ExpDone .factor s) (ExpHalt .factor s))
  case _ => -- exp: a term, then its repetition
    intro s₀
    dsimp only
    intro hterm hmore
    rw [Cursor.exp]
    refine Reply.Holds.bind (E := ExpDone .exp (s₀.note (.enter .exp))) ?_
      fun s₂ _ hd => by exact (hd.note (hleave _)).note_left (henter _)
    refine (hterm.imp (fun _ h => h) fun h s' hh => ?_).bind fun s₁ h₁ hd₁ => ?_
    · exact ExpHalt.first (henter _) hh (fun _ => Symbol.begins_exp_of_term)
        (fun _ => Symbol.not_viable_exp_of_term)
    · refine (Reply.holds_widen _ _).mpr ?_
      refine (hmore s₁ h₁ (Symbol.closes_term_iff.mp hd₁.2.2)).imp
        (fun s₂ hd₂ => ⟨hd₁.1.trans hd₂.1, .exp hd₁.2.1 hd₂.2.1, hd₂.2.2⟩) fun h s' hh => ?_
      exact hh.after_phrase (hd₁.note_left (henter _)) (fun _ _ _ => Symbol.begins_exp_of_moreTerms)
        (fun _ _ _ => Symbol.not_viable_exp_of_moreTerms)
  case _ => -- moreTerms: an operator, and no token after it
    intro s hk ha _
    rw [Cursor.moreTerms, dif_pos hk]
    split
    · next ha' => exact (holds_stop s).mpr (ExpHalt.stop (Quiet.refl s) ha')
    · next ha' => rw [ha] at ha'; cases ha'
  case _ => -- moreTerms: an operator, a term, and the rest of the repetition
    intro s hk s₁ ha _ hterm hmore hmul
    have hne := Kind.ne_eof_of_isAddOp hk
    have hop := Kind.isAddOp_iff.mp hk
    rw [Cursor.moreTerms, dif_pos hk]
    split
    · next ha' => rw [ha] at ha'; cases ha'
    · next s₁' ha' =>
      rw [ha] at ha'
      cases ha'
      dsimp only
      refine (Reply.holds_widen _ _).mpr ?_
      refine (hterm.imp (fun _ h => h) fun h s' hh => ?_).bind fun s₂ h₂ hd₂ => ?_
      · exact hh.after_token ha hne (fun _ => Symbol.begins_moreTerms_of_term hop)
          (fun _ => Symbol.not_viable_moreTerms_of_term hop)
      · refine (Reply.holds_widen _ _).mpr ?_
        refine (hmore s₂ h₂ (Symbol.closes_term_iff.mp hd₂.2.2)).imp (fun s₃ hd₃ => ?_)
          fun h s' hh => ?_
        · refine ⟨(Quiet.advance ha).trans (hd₂.1.trans hd₃.1), ?_, hd₃.2.2⟩
          rw [kinds_of_advance ha hne]
          exact .moreTerms_cons hop hd₂.2.1 hd₃.2.1
        · exact hh.after_token_phrase ha hne hd₂
            (fun _ _ _ => Symbol.begins_moreTerms_of_moreTerms hop)
            (fun _ _ _ => Symbol.not_viable_moreTerms_of_moreTerms hop)
  case _ => -- moreTerms: no operator, the repetition is empty
    intro s hk hmul
    rw [Cursor.moreTerms, dif_neg hk, holds_finish]
    refine ⟨Quiet.refl s, .moreTerms_nil, ?_⟩
    exact Symbol.closes_exp_iff.mpr ⟨Bool.eq_false_iff.mpr hk, hmul⟩
  case _ => -- term: a factor, then its repetition
    intro s₀
    dsimp only
    intro hfactor hmore
    rw [Cursor.term]
    refine Reply.Holds.bind (E := ExpDone .term (s₀.note (.enter .term))) ?_
      fun s₂ _ hd => by exact (hd.note (hleave _)).note_left (henter _)
    refine (hfactor.imp (fun _ h => h) fun h s' hh => ?_).bind fun s₁ h₁ hd₁ => ?_
    · exact ExpHalt.first (henter _) hh (fun _ => Symbol.begins_term_of_factor)
        (fun _ => Symbol.not_viable_term_of_factor)
    · refine (Reply.holds_widen _ _).mpr ?_
      refine (hmore s₁ h₁).imp (fun s₂ hd₂ => ⟨hd₁.1.trans hd₂.1, .term hd₁.2.1 hd₂.2.1, hd₂.2.2⟩)
        fun h s' hh => ?_
      exact hh.after_phrase (hd₁.note_left (henter _))
        (fun _ _ _ => Symbol.begins_term_of_moreFactors)
        (fun _ _ _ => Symbol.not_viable_term_of_moreFactors)
  case _ => -- moreFactors: an operator, and no token after it
    intro s hk ha
    rw [Cursor.moreFactors, dif_pos hk]
    split
    · next ha' => exact (holds_stop s).mpr (ExpHalt.stop (Quiet.refl s) ha')
    · next ha' => rw [ha] at ha'; cases ha'
  case _ => -- moreFactors: an operator, a factor, and the rest of the repetition
    intro s hk s₁ ha _ hfactor hmore
    have hne : s.lookahead.kind ≠ .eof := Kind.ne_eof_of_isMulOp hk
    have hop := Kind.isMulOp_iff.mp hk
    rw [Cursor.moreFactors, dif_pos hk]
    split
    · next ha' => rw [ha] at ha'; cases ha'
    · next s₁' ha' =>
      rw [ha] at ha'
      cases ha'
      dsimp only
      refine (Reply.holds_widen _ _).mpr ?_
      refine (hfactor.imp (fun _ h => h) fun h s' hh => ?_).bind fun s₂ h₂ hd₂ => ?_
      · exact hh.after_token ha hne (fun _ => Symbol.begins_moreFactors_of_factor hop)
          (fun _ => Symbol.not_viable_moreFactors_of_factor hop)
      · refine (Reply.holds_widen _ _).mpr ?_
        refine (hmore s₂ h₂).imp (fun s₃ hd₃ => ?_) fun h s' hh => ?_
        · refine ⟨(Quiet.advance ha).trans (hd₂.1.trans hd₃.1), ?_, hd₃.2.2⟩
          rw [kinds_of_advance ha hne]
          exact .moreFactors_cons hop hd₂.2.1 hd₃.2.1
        · exact hh.after_token_phrase ha hne hd₂
            (fun _ _ _ => Symbol.begins_moreFactors_of_moreFactors hop)
            (fun _ _ _ => Symbol.not_viable_moreFactors_of_moreFactors hop)
  case _ => -- moreFactors: no operator, the repetition is empty
    intro s hk
    rw [Cursor.moreFactors, dif_neg hk, holds_finish]
    exact ⟨Quiet.refl s, .moreFactors_nil, Symbol.closes_term_iff.mpr (Bool.eq_false_iff.mpr hk)⟩
  case _ => -- factor: an operand, and no token after it
    intro s₀
    dsimp only
    intro hk ha
    rw [Cursor.factor, if_pos hk]
    split
    · next ha' =>
      exact (holds_stop _).mpr (ExpHalt.first (henter _)
        (ExpHalt.stop (Quiet.refl _) ha' : ExpHalt .factor _ .unreadable _) (fun _ h => h) (fun _ h => h))
    · next ha' => rw [ha] at ha'; cases ha'
  case _ => -- factor: an operand
    intro s₀
    dsimp only
    intro hk s₁ ha
    rw [Cursor.factor, if_pos hk]
    split
    · next ha' => rw [ha] at ha'; cases ha'
    · next s₁' ha' =>
      rw [ha] at ha'
      cases ha'
      have hop := Kind.isOperand_iff.mp hk
      have hne : (s₀.note (.enter .factor)).lookahead.kind ≠ .eof := by
        rcases hop with h | h | h <;> rw [h] <;> simp
      refine (ExpDone.note (⟨Quiet.advance ha, ?_, trivial⟩ : ExpDone .factor _ _) (hleave _)).note_left
        (henter _)
      rw [kinds_of_advance ha hne]
      rcases hop with h | h | h <;> rw [h]
      · exact .int
      · exact .float
      · exact .ident
  case _ => -- factor: a parenthesis, and no token after it
    intro s₀
    dsimp only
    intro hnot hk ha
    rw [Cursor.factor, if_neg hnot]
    refine Reply.holds_dite (fun _ => ?_) fun hk' => absurd hk hk'
    split
    · next ha' =>
      exact (holds_stop _).mpr (ExpHalt.first (henter _)
        (ExpHalt.stop (Quiet.refl _) ha' : ExpHalt .factor _ .unreadable _) (fun _ h => h) (fun _ h => h))
    · next ha' => rw [ha] at ha'; cases ha'
  case _ => -- factor: a parenthesis, an expression and the closing parenthesis
    intro s₀
    dsimp only
    intro hnot hk s₁ ha _ hexp
    have hne : (s₀.note (.enter .factor)).lookahead.kind ≠ .eof := by rw [hk]; simp
    rw [Cursor.factor, if_neg hnot]
    refine Reply.holds_dite (fun _ => ?_) fun hk' => absurd hk hk'
    split
    · next ha' => rw [ha] at ha'; cases ha'
    · next s₁' ha' =>
      rw [ha] at ha'
      cases ha'
      dsimp only
      refine (Reply.holds_widen _ _).mpr ?_
      refine (hexp.imp (fun _ h => h) fun h s' hh => ?_).bind fun s₂ h₂ hd₂ => ?_
      · refine ExpHalt.first (henter _) (hh.after_token ha hne (fun _ hb => ?_) fun _ hv => ?_)
          (fun _ h => h) (fun _ h => h)
        · rw [hk]; exact Symbol.begins_paren_of_exp hb
        · rw [hk]; exact Symbol.not_viable_paren_of_exp hv
      · obtain ⟨q, hq, hder⟩ := hd₂.consumed
        refine Reply.Holds.bind (E := fun s₃ => s₂.advance = some s₃ ∧ s₂.lookahead.kind = .rparen)
          ((Reply.holds_widen _ _).mpr
            (holds_consume (fun s₃ hk₃ ha₃ => ⟨ha₃, hk₃⟩) (fun ha₃ => ?_) fun hk₃ => ?_))
          fun s₃ _ ⟨ha₃, hk₃⟩ => ?_
        · -- no token after the expression
          refine ExpHalt.first (henter _)
            (⟨(Quiet.advance ha).trans hd₂.1, fun hr => ?_⟩ : ExpHalt .factor _ .unreadable _)
            (fun _ h => h) (fun _ h => h)
          exact not_ready_of_advance ha₃ (hr.of_suffix ((Quiet.advance ha).trans hd₂.1).suffix)
        · -- the expression is not closed by a parenthesis
          refine ⟨(quiet_note_left (henter _)).mp ((Quiet.advance ha).trans hd₂.1), rfl,
            s₀.lookahead :: q, ?_, ?_, ?_⟩
          · have := tokens_of_advance ha hne
            simp only [tokens_note, lookahead_note] at this
            rw [this, hq]; rfl
          · have hp : s₀.lookahead.kind = .lparen := by simpa using hk
            simpa [hp] using Symbol.begins_paren_close hder
          · have hp : s₀.lookahead.kind = .lparen := by simpa using hk
            simpa [hp] using Symbol.not_viable_paren_close hder hd₂.2.2 hk₃
        · -- the closing parenthesis
          have hne₃ : s₂.lookahead.kind ≠ .eof := by rw [hk₃]; simp
          refine (ExpDone.note
            (⟨((Quiet.advance ha).trans hd₂.1).trans (Quiet.advance ha₃), ?_, trivial⟩ :
              ExpDone .factor _ _) (hleave _)).note_left (henter _)
          have hinner := hd₂.2.1
          rw [kinds_of_advance ha₃ hne₃, hk₃] at hinner
          rw [kinds_of_advance ha hne, hk]
          exact .paren hinner
  case _ => -- factor: no operand
    intro s₀
    dsimp only
    intro hnot hk
    rw [Cursor.factor, if_neg hnot]
    refine Reply.holds_dite (fun hk' => absurd hk' hk) fun _ => (holds_fail _ _).mpr ?_
    refine ⟨(quiet_note_left (henter _)).mp (Quiet.refl _), rfl, [], rfl, Symbol.factor_begins_nil,
      ?_⟩
    refine Symbol.not_viable_factor fun h => ?_
    rcases h with h | h | h | h
    · exact hnot (Kind.isOperand_iff.mpr (.inl h))
    · exact hnot (Kind.isOperand_iff.mpr (.inr (.inl h)))
    · exact hnot (Kind.isOperand_iff.mpr (.inr (.inr h)))
    · exact hk h

end Cursor

end BlockSyntax
