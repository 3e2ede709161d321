import BlockSyntax.Proofs.ExpressionCheck
import BlockSyntax.Proofs.StatementRules

/-! # What the procedures of statements do

The body of a statement, a declaration or an assignment, records no error.  When it ends
normally it has read a statement, and if the lookahead does not close one, the tokens it read
with the lookahead are no longer viable (`BodyDone`); when it halts on a fault, the fault is at
the first token that no statement goes on with (`ExpHalt .stmt`).

The procedures of blocks and statement lists do record errors, recover and go on.  Whatever they
do, the errors recorded before stay in front, and when they record none they have read a phrase
of their symbol (`StmtDone`); they run out of tokens only if the tokens do not end with the end
token (`StmtHalt`).  `statement_sound` proves this for the four procedures by their mutual
induction: each case is a step lemma that assumes the specification of the calls in the body.
-/

namespace BlockSyntax

namespace Cursor

/-! ### Bodies of statements -/

/-- The body of a statement read from `s` ended normally on `s'`: it recorded no error and read a
statement; if the lookahead does not close a statement, the tokens read with it are no longer
viable. -/
def BodyDone (s s' : Cursor) : Prop :=
  s.Quiet s' ∧ Derives .stmt s.kinds s'.kinds ∧
    ∀ q, s.tokens = q ++ s'.tokens → ¬ Symbol.stmt.Closes s'.lookahead.kind →
      ¬ Symbol.stmt.Viable (q.map Token.kind ++ [s'.lookahead.kind])

theorem ne_eof_of_kind_eq {t : Token} {k : Kind} (hk : t.kind = k) (hne : k ≠ .eof) :
    t.kind ≠ .eof :=
  hk ▸ hne

/-- **Declarations.**  `TYPE IDENT`, read from a type. -/
theorem declaration_spec (s₀ : Cursor) (hk : s₀.lookahead.kind = .type) :
    s₀.declaration.Holds (BodyDone s₀) (ExpHalt .stmt s₀) := by
  have hs : s₀.Quiet (s₀.note (.enter .declaration)) := (Quiet.refl s₀).note rfl
  refine holds_declaration (holds_consume (fun s₁ _ ha₁ => ?_) (fun ha => ExpHalt.stop hs ha)
    fun hne => absurd hk hne)
  have hq₁ : s₀.Quiet s₁ := hs.trans (Quiet.advance ha₁)
  have ht₁ : s₀.tokens = [s₀.lookahead] ++ s₁.tokens :=
    tokens_of_advance (s := s₀.note (.enter .declaration)) ha₁ (ne_eof_of_kind_eq hk (by decide))
  refine holds_consume (fun s₂ hk₂ ha₂ => ?_) (fun ha₂ => ExpHalt.stop hq₁ ha₂) fun hne₂ => ?_
  · -- the identifier ends the declaration
    have ht₂ : s₀.tokens = [s₀.lookahead, s₁.lookahead] ++ s₂.tokens := by
      rw [ht₁, tokens_of_advance ha₂ (ne_eof_of_kind_eq hk₂ (by decide))]; rfl
    refine ⟨(hq₁.trans (Quiet.advance ha₂)).note rfl, ?_, fun q hq hcl => ?_⟩
    · have hkinds := kinds_eq_of_tokens ht₂
      simp only [List.map_cons, List.map_nil, hk, hk₂, List.cons_append, List.nil_append] at hkinds
      exact hkinds ▸ .declaration
    · obtain rfl := List.append_cancel_right (hq.symm.trans ht₂)
      simpa [hk, hk₂] using Symbol.not_viable_declaration_end hcl
  · -- no identifier after the type
    refine ⟨hq₁, rfl, [s₀.lookahead], ht₁, ?_, ?_⟩
    · simpa [hk] using Symbol.stmt_begins_type
    · simpa [hk] using Symbol.not_viable_declaration hne₂

/-- **Assignments.**  `IDENT '=' Exp`, read from an identifier. -/
theorem assignment_spec (s₀ : Cursor) (hk : s₀.lookahead.kind = .ident) :
    s₀.assignment.Holds (BodyDone s₀) (ExpHalt .stmt s₀) := by
  have hs : s₀.Quiet (s₀.note (.enter .assignment)) := (Quiet.refl s₀).note rfl
  refine holds_assignment (fun _ s₁ ha₁ => ?_) (fun _ ha => ExpHalt.stop hs ha)
    fun hne => absurd hk hne
  have hq₁ : s₀.Quiet s₁ := hs.trans (Quiet.advance ha₁)
  have ht₁ : s₀.tokens = [s₀.lookahead] ++ s₁.tokens :=
    tokens_of_advance (s := s₀.note (.enter .assignment)) ha₁ (ne_eof_of_kind_eq hk (by decide))
  refine holds_consume (fun s₂ hk₂ ha₂ => ?_) (fun ha₂ => ExpHalt.stop hq₁ ha₂) fun hne₂ => ?_
  · -- the expression after the `=`
    have hq₂ : s₀.Quiet s₂ := hq₁.trans (Quiet.advance ha₂)
    have ht₂ : s₀.tokens = [s₀.lookahead, s₁.lookahead] ++ s₂.tokens := by
      rw [ht₁, tokens_of_advance ha₂ (ne_eof_of_kind_eq hk₂ (by decide))]; rfl
    have hhead : ([s₀.lookahead, s₁.lookahead].map Token.kind) = [.ident, .assign] := by
      simp [hk, hk₂]
    refine (expression_spec.1 s₂).imp (fun s₃ hd₃ => ?_) fun h s' hh => ?_
    · obtain ⟨q₃, hq₃, hder⟩ := hd₃.consumed
      refine ⟨(hq₂.trans hd₃.1).note rfl, ?_, fun q hq hcl => ?_⟩
      · have hkinds := kinds_eq_of_tokens ht₂
        rw [hhead, kinds_eq_of_tokens hq₃] at hkinds
        exact hkinds ▸ .assignment hder
      · have hq' : q = [s₀.lookahead, s₁.lookahead] ++ q₃ := by
          rw [ht₂, hq₃, ← List.append_assoc] at hq
          exact (List.append_cancel_right hq).symm
        subst hq'
        rw [List.map_append, hhead]
        exact Symbol.not_viable_assignment_end hder hd₃.2.2 hcl
    · refine hh.after ht₂ hq₂ (fun p hb => ?_) fun p _ hv => ?_
      · rw [hhead]; exact Symbol.begins_assignment_of_exp hb
      · rw [hhead]; exact Symbol.not_viable_assignment_of_exp hv
  · -- no `=` after the identifier
    refine ⟨hq₁, rfl, [s₀.lookahead], ht₁, ?_, ?_⟩
    · simpa [hk] using Symbol.stmt_begins_ident
    · simpa [hk] using Symbol.not_viable_assignment hne₂

/-! ### Blocks and statement lists -/

/-- A procedure reading `sym` from `s` ended normally on `s'`: the errors recorded before stay in
front, and if it recorded no error it read a phrase of `sym`. -/
def StmtDone (sym : Symbol) (s s' : Cursor) : Prop :=
  s.Later s' ∧ (s'.errors = s.errors → Derives sym s.kinds s'.kinds)

/-- A procedure of statements halted on `s'`: the errors recorded before stay in front, and it
ran out of tokens only if they do not end with the end token. -/
def StmtHalt (s : Cursor) (h : Halt) (s' : Cursor) : Prop :=
  s.Later s' ∧ (h = .unreadable → ¬ s.Ready)

theorem Later.size_le {s s' : Cursor} (h : s.Later s') : s'.size ≤ s.size := by
  have := h.suffix.length_le
  simp only [tokens, List.length_cons] at this
  exact Nat.le_of_succ_le_succ this

/-- Between two cursors that hold the same errors, no error was recorded. -/
theorem Later.errors_eq {s₁ s₂ s₃ : Cursor} (h₁ : s₁.Later s₂) (h₂ : s₂.Later s₃)
    (he : s₃.errors = s₁.errors) : s₂.errors = s₁.errors := by
  have hle : s₂.errors.length ≤ s₁.errors.length := he ▸ h₂.errors.length_le
  exact (h₁.errors.eq_of_length (Nat.le_antisymm h₁.errors.length_le hle)).symm

theorem StmtHalt.after {s s₁ s' : Cursor} {h : Halt} (hh : StmtHalt s₁ h s') (hl : s.Later s₁) :
    StmtHalt s h s' :=
  ⟨hl.trans hh.1, fun hu hr => hh.2 hu (hr.of_suffix hl.suffix)⟩

theorem StmtHalt.stop {s s₁ : Cursor} (hl : s.Later s₁) (ha : s₁.advance = none) :
    StmtHalt s .unreadable s₁ :=
  ⟨hl, fun _ hr => not_ready_of_advance ha (hr.of_suffix hl.suffix)⟩

theorem ExpHalt.stmtHalt {sym : Symbol} {s s' : Cursor} {h : Halt} (hh : ExpHalt sym s h s') :
    StmtHalt s h s' := by
  cases h with
  | unreadable => exact ⟨hh.1.later, fun _ => hh.2⟩
  | fault e => exact ⟨hh.1.later, fun h => by cases h⟩

theorem BodyDone.stmtDone {s s' : Cursor} (hd : BodyDone s s') : StmtDone .stmt s s' :=
  ⟨hd.1.later, fun _ => hd.2.1⟩

/-- Recovery after an error recorded at `s₁`: the error stays recorded, so the statement claims
no phrase. -/
theorem recover_spec {s₀ s₁ : Cursor} {e : SyntaxError} (hl : s₀.Later s₁) :
    ((s₁.note (.report e)).skipToEnd).Holds (fun s₂ => StmtDone .stmt s₀ (s₂.note (.leave .stmt)))
      (StmtHalt s₀) := by
  have hr : s₀.Later (s₁.note (.report e)) := hl.note _
  refine (skipToEnd_spec _).imp (fun s₂ hd => ⟨(hr.trans hd.1.later).note _, fun he => ?_⟩)
    fun h s₂ hh => ⟨hr.trans hh.2.1.later, fun _ hs => hh.2.2 (hs.of_suffix hr.suffix)⟩
  -- one more error than at `s₁`, which has at least those of `s₀`
  have hlen := congrArg List.length he
  have hle := hl.errors.length_le
  simp only [errors_note, hd.1.errors, Event.error?, Option.toList_some, Option.toList_none,
    List.append_nil, List.length_append, List.length_singleton] at hlen
  omega

theorem StmtDone.leave {sym : Symbol} {s s' : Cursor} (hd : StmtDone sym s s') (p : Procedure) :
    StmtDone sym s (s'.note (.leave p)) :=
  ⟨hd.1.note _, fun he => hd.2 (by simpa [Event.error?] using he)⟩

theorem StmtDone.enter {sym : Symbol} {s s' : Cursor} {p : Procedure}
    (hd : StmtDone sym (s.note (.enter p)) s') : StmtDone sym s s' :=
  ⟨((Quiet.refl s).note rfl).later.trans hd.1, fun he => hd.2 (by simpa [Event.error?] using he)⟩

theorem StmtHalt.enter {s s' : Cursor} {h : Halt} {p : Procedure}
    (hh : StmtHalt (s.note (.enter p)) h s') : StmtHalt s h s' :=
  hh.after ((Quiet.refl s).note rfl).later

/-- **A block**, given its statement list. -/
theorem block_step (s₀ : Cursor)
    (ih : s₀.lookahead.kind = .lbrace → ∀ s₁, (s₀.note (.enter .block)).advance = some s₁ →
      s₁.stmtList.Holds (StmtDone .stmtList s₁) (StmtHalt s₁)) :
    s₀.block.Holds (StmtDone .block s₀) (StmtHalt s₀) := by
  have hs : s₀.Quiet (s₀.note (.enter .block)) := (Quiet.refl s₀).note rfl
  refine holds_block (fun hk s₁ ha => ?_) (fun _ ha => StmtHalt.stop hs.later ha)
    fun _ => ⟨hs.later, fun h => by cases h⟩
  have hq₁ : s₀.Quiet s₁ := hs.trans (Quiet.advance ha)
  have hk₁ : s₀.kinds = s₀.lookahead.kind :: s₁.kinds :=
    kinds_of_advance (s := s₀.note (.enter .block)) ha (ne_eof_of_kind_eq hk (by decide))
  refine (ih hk s₁ ha).imp (fun s₂ hd₂ => ?_) fun h s' hh => hh.after hq₁.later
  have hl₂ : s₀.Later s₂ := hq₁.later.trans hd₂.1
  refine holds_consume (fun s₃ hk₂ ha₃ => ?_) (fun ha₃ => StmtHalt.stop hl₂ ha₃)
    fun _ => ⟨hl₂, fun h => by cases h⟩
  have hq₃ : s₂.Quiet s₃ := Quiet.advance ha₃
  refine ⟨(hl₂.trans hq₃.later).note _, fun he => ?_⟩
  -- no error in the whole block, so none in its statement list
  have he₃ : s₃.errors = s₁.errors := by
    simpa [Event.error?, hq₁.errors] using he
  have hlist := hd₂.2 (hd₂.1.errors_eq hq₃.later he₃)
  have hk₃ : s₂.kinds = s₂.lookahead.kind :: s₃.kinds :=
    kinds_of_advance ha₃ (ne_eof_of_kind_eq hk₂ (by decide))
  rw [hk₂] at hk₃
  rw [hk₃] at hlist
  rw [hk] at hk₁
  exact hk₁ ▸ .block hlist

/-- **A statement list**, given its first statement and the statements after it. -/
theorem stmtList_step (s₀ : Cursor)
    (ihs : (s₀.note (.enter .stmtList)).stmt.Holds (StmtDone .stmt (s₀.note (.enter .stmtList)))
      (StmtHalt (s₀.note (.enter .stmtList))))
    (ihm : ∀ s₁ : Cursor, s₁.size ≤ (s₀.note (.enter .stmtList)).size →
      s₁.moreStmts.Holds (StmtDone .moreStmts s₁) (StmtHalt s₁)) :
    s₀.stmtList.Holds (StmtDone .stmtList s₀) (StmtHalt s₀) := by
  refine holds_stmtList (ihs.imp (fun s₁ hd₁ => ?_) fun h s' hh => hh.enter)
  refine (ihm s₁ hd₁.1.size_le).imp (fun s₂ hd₂ => ?_) fun h s' hh => (hh.after hd₁.1).enter
  refine (StmtDone.enter ⟨hd₁.1.trans hd₂.1, fun he => ?_⟩).leave _
  have he₁ := hd₁.1.errors_eq hd₂.1 he
  exact .stmtList (hd₁.2 he₁) (hd₂.2 (he.trans he₁.symm))

/-- **The statements after the first**, given the next statement and those after it. -/
theorem moreStmts_step (s : Cursor)
    (ihs : s.lookahead.kind = .comma → ∀ s₁, s.advance = some s₁ →
      s₁.stmt.Holds (StmtDone .stmt s₁) (StmtHalt s₁))
    (ihm : s.lookahead.kind = .comma → ∀ s₁, s.advance = some s₁ → ∀ s₂ : Cursor, s₂.size ≤ s₁.size →
      s₂.moreStmts.Holds (StmtDone .moreStmts s₂) (StmtHalt s₂)) :
    s.moreStmts.Holds (StmtDone .moreStmts s) (StmtHalt s) := by
  refine holds_moreStmts (fun hk s₁ ha => ?_) (fun _ ha => StmtHalt.stop (Later.refl s) ha)
    fun _ => ⟨Later.refl s, fun _ => .moreStmts_nil⟩
  have hq₁ : s.Quiet s₁ := Quiet.advance ha
  have hk₁ : s.kinds = s.lookahead.kind :: s₁.kinds :=
    kinds_of_advance ha (ne_eof_of_kind_eq hk (by decide))
  refine (ihs hk s₁ ha).imp (fun s₂ hd₂ => ?_) fun h s' hh => hh.after hq₁.later
  refine (ihm hk s₁ ha s₂ hd₂.1.size_le).imp (fun s₃ hd₃ => ?_)
    fun h s' hh => (hh.after hd₂.1).after hq₁.later
  refine ⟨hq₁.later.trans (hd₂.1.trans hd₃.1), fun he => ?_⟩
  have he₃ : s₃.errors = s₁.errors := he.trans hq₁.errors.symm
  have he₂ := hd₂.1.errors_eq hd₃.1 he₃
  rw [hk] at hk₁
  exact hk₁ ▸ .moreStmts_cons (hd₂.2 he₂) (hd₃.2 (he₃.trans he₂.symm))

/-- **A statement**, given the block it may be. -/
theorem stmt_step (s₀ : Cursor)
    (ih : (s₀.note (.enter .stmt)).block.Holds (StmtDone .block (s₀.note (.enter .stmt)))
      (StmtHalt (s₀.note (.enter .stmt)))) :
    s₀.stmt.Holds (StmtDone .stmt s₀) (StmtHalt s₀) := by
  have hs : s₀.Later (s₀.note (.enter .stmt)) := ((Quiet.refl s₀).note rfl).later
  refine holds_stmt (B := StmtDone .stmt (s₀.note (.enter .stmt)))
    (F := StmtHalt (s₀.note (.enter .stmt)))
    (fun hk => (declaration_spec (s₀.note (.enter .stmt)) hk).imp (fun _ hd => hd.stmtDone) fun _ _ hh => hh.stmtHalt)
    (fun hk => (assignment_spec (s₀.note (.enter .stmt)) hk).imp (fun _ hd => hd.stmtDone) fun _ _ hh => hh.stmtHalt)
    (fun _ => ih.imp (fun _ hd => ⟨hd.1, fun he => .nested (hd.2 he)⟩) fun _ _ hh => hh)
    (fun _ _ _ => recover_spec hs) (fun s₁ hd _ => hd.enter.leave _)
    (fun s₁ hd _ => recover_spec (hs.trans hd.1)) (fun s₁ hh => hh.enter)
    fun e s₁ hh => recover_spec (hs.trans hh.1)

/-- **Soundness of statements.**  The four procedures of statements keep the errors recorded
before in front; when they record no error, they have read a phrase of their symbol; and they run
out of tokens only if the tokens do not end with the end token. -/
theorem statement_sound :
    (∀ s : Cursor, s.block.Holds (StmtDone .block s) (StmtHalt s)) ∧
    (∀ s : Cursor, s.stmtList.Holds (StmtDone .stmtList s) (StmtHalt s)) ∧
    (∀ s : Cursor, s.moreStmts.Holds (StmtDone .moreStmts s) (StmtHalt s)) ∧
    (∀ s : Cursor, s.stmt.Holds (StmtDone .stmt s) (StmtHalt s)) := by
  apply Cursor.block.mutual_induct
    (fun s => s.block.Holds (StmtDone .block s) (StmtHalt s))
    (fun s => s.stmtList.Holds (StmtDone .stmtList s) (StmtHalt s))
    (fun s => s.moreStmts.Holds (StmtDone .moreStmts s) (StmtHalt s))
    (fun s => s.stmt.Holds (StmtDone .stmt s) (StmtHalt s))
  -- each case passes its hypotheses on to the step lemma of its procedure
  case case1 =>
    intro s₀; dsimp only; intro hk ha
    exact block_step s₀ fun _ s₁ ha₁ => by cases ha.symm.trans ha₁
  case case2 =>
    intro s₀; dsimp only; intro hk s₂ ha _ ih
    exact block_step s₀ fun _ s₁ ha₁ => by cases ha.symm.trans ha₁; exact ih
  case case3 =>
    intro s₀; dsimp only; intro hk
    exact block_step s₀ fun hk' => absurd hk' hk
  case case4 =>
    intro s₀; dsimp only; intro ihs ihm
    exact stmtList_step s₀ ihs ihm
  case case5 =>
    intro s hk ha
    exact moreStmts_step s (fun _ s₁ ha₁ => by cases ha.symm.trans ha₁)
      fun _ s₁ ha₁ => by cases ha.symm.trans ha₁
  case case6 =>
    intro s hk s₂ ha _ ihs ihm
    exact moreStmts_step s (fun _ s₁ ha₁ => by cases ha.symm.trans ha₁; exact ihs)
      fun _ s₁ ha₁ => by cases ha.symm.trans ha₁; exact ihm
  case case7 =>
    intro s hk
    exact moreStmts_step s (fun hk' => absurd hk' hk) fun hk' => absurd hk' hk
  case case8 =>
    intro s₀; dsimp only; intro _ _ _ ih
    exact stmt_step s₀ ih
  case case9 =>
    intro s₀; dsimp only; intro _ _ _ ih
    exact stmt_step s₀ ih
  case case10 =>
    intro s₀; dsimp only; intro _ _ _ _ ih
    exact stmt_step s₀ ih

end Cursor

end BlockSyntax
