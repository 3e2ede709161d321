import BlockSyntax.Proofs.ReplyLogic

/-! # One rule per procedure of statements

Each rule says how a procedure of statements ends, given how the calls in its body end: the
premise for a call is a `Holds` whose normal ending states what the rest of the body must then
satisfy.  The proofs about statements cite these rules and never unfold the procedures.

`skipToEnd_spec` is the specification of recovery: it skips tokens that end no statement,
recording nothing, and stops at one that does.
-/

namespace BlockSyntax

namespace Cursor

variable {D : Cursor → Prop} {H : Halt → Cursor → Prop}

/-- `Block ::= '{' StmtList '}'`. -/
theorem holds_block {s₀ : Cursor}
    (hopen : s₀.lookahead.kind = .lbrace → ∀ s₁, (s₀.note (.enter .block)).advance = some s₁ →
      s₁.stmtList.Holds (fun s₂ => (s₂.consume .rbrace).Holds
        (fun s₃ => D (s₃.note (.leave .block))) H) H)
    (hnone : s₀.lookahead.kind = .lbrace → (s₀.note (.enter .block)).advance = none →
      H .unreadable (s₀.note (.enter .block)))
    (hfail : s₀.lookahead.kind ≠ .lbrace →
      H (.fault ⟨.expected .lbrace, s₀.lookahead⟩) (s₀.note (.enter .block))) :
    s₀.block.Holds D H := by
  rw [Cursor.block]
  refine Reply.holds_dite (fun hk => ?_) fun hk => (holds_fail _ _).mpr (hfail hk)
  split
  · next ha => exact (holds_stop _).mpr (hnone hk ha)
  · next s₁ ha =>
    dsimp only
    refine (Reply.holds_widen _ _).mpr ((hopen hk s₁ ha).bind fun s₂ h₂ hd₂ => ?_)
    exact ((Reply.holds_widen _ _).mpr hd₂).bind fun _ _ hd₃ => hd₃

/-- `StmtList ::= Stmt { ',' Stmt }`. -/
theorem holds_stmtList {s₀ : Cursor}
    (h : (s₀.note (.enter .stmtList)).stmt.Holds
      (fun s₁ => s₁.moreStmts.Holds (fun s₂ => D (s₂.note (.leave .stmtList))) H) H) :
    s₀.stmtList.Holds D H := by
  rw [Cursor.stmtList]
  exact (h.bind fun _ _ hd => (Reply.holds_widen _ _).mpr hd).bind fun _ _ hd => hd

/-- The repetition `{ ',' Stmt }`. -/
theorem holds_moreStmts {s : Cursor}
    (hcomma : s.lookahead.kind = .comma → ∀ s₁, s.advance = some s₁ →
      s₁.stmt.Holds (fun s₂ => s₂.moreStmts.Holds D H) H)
    (hnone : s.lookahead.kind = .comma → s.advance = none → H .unreadable s)
    (hend : s.lookahead.kind ≠ .comma → D s) :
    s.moreStmts.Holds D H := by
  rw [Cursor.moreStmts]
  refine Reply.holds_dite (fun hk => ?_) fun hk => (holds_finish _).mpr (hend hk)
  split
  · next ha => exact (holds_stop _).mpr (hnone hk ha)
  · next s₁ ha =>
    dsimp only
    exact (Reply.holds_widen _ _).mpr
      ((hcomma hk s₁ ha).bind fun _ _ hd => (Reply.holds_widen _ _).mpr hd)

/-- `Declaration ::= TYPE IDENT`. -/
theorem holds_declaration {s₀ : Cursor}
    (h : ((s₀.note (.enter .declaration)).consume .type).Holds
      (fun s₁ => (s₁.consume .ident).Holds (fun s₂ => D (s₂.note (.leave .declaration))) H) H) :
    s₀.declaration.Holds D H := by
  rw [Cursor.declaration]
  exact h.bind fun _ _ hd => ((Reply.holds_widen _ _).mpr hd).bind fun _ _ hd₂ => hd₂

/-- `Assignment ::= IDENT '=' Exp`. -/
theorem holds_assignment {s₀ : Cursor}
    (hident : s₀.lookahead.kind = .ident → ∀ s₁, (s₀.note (.enter .assignment)).advance = some s₁ →
      (s₁.consume .assign).Holds
        (fun s₂ => s₂.exp.Holds (fun s₃ => D (s₃.note (.leave .assignment))) H) H)
    (hnone : s₀.lookahead.kind = .ident → (s₀.note (.enter .assignment)).advance = none →
      H .unreadable (s₀.note (.enter .assignment)))
    (hfail : s₀.lookahead.kind ≠ .ident →
      H (.fault ⟨.expected .ident, s₀.lookahead⟩) (s₀.note (.enter .assignment))) :
    s₀.assignment.Holds D H := by
  rw [Cursor.assignment]
  refine Reply.holds_dite (fun hk => ?_) fun hk => (holds_fail _ _).mpr (hfail hk)
  split
  · next ha => exact (holds_stop _).mpr (hnone hk ha)
  · next s₁ ha =>
    dsimp only
    refine (Reply.holds_widen _ _).mpr ((hident hk s₁ ha).bind fun s₂ h₂ hd₂ => ?_)
    exact ((Reply.holds_widen _ _).mpr hd₂).bind fun _ _ hd₃ => hd₃

/-- The body of a statement, chosen by its first token, and the test after it. -/
private theorem holds_stmt_checked {s : Cursor} {B : Cursor → Prop} {F : Halt → Cursor → Prop}
    (hdecl : s.lookahead.kind = .type → s.declaration.Holds B F)
    (hassign : s.lookahead.kind = .ident → s.assignment.Holds B F)
    (hblock : s.lookahead.kind = .lbrace → s.block.Holds B F)
    (hstart : s.lookahead.kind ≠ .type → s.lookahead.kind ≠ .ident → s.lookahead.kind ≠ .lbrace →
      F (.fault ⟨.statementStart, s.lookahead⟩) s) :
    ((match s.lookahead.kind with
      | .type => s.declaration
      | .ident => s.assignment
      | .lbrace => s.block
      | _ => s.fail .statementStart).bind fun s₁ h₁ =>
      if _h : s₁.lookahead.kind.endsStatement = true then Reply.done s₁ h₁
      else Reply.halt (.fault ⟨.statementEnd, s₁.lookahead⟩) s₁ h₁).Holds
      (fun s₁ => B s₁ ∧ s₁.lookahead.kind.endsStatement = true)
      (fun h s₁ => F h s₁ ∨
        (h = Halt.fault ⟨.statementEnd, s₁.lookahead⟩ ∧ B s₁ ∧
          s₁.lookahead.kind.endsStatement = false)) := by
  refine Reply.Holds.bind (E := B) ?_ fun s₁ h₁ hb => ?_
  · split
    · next hk => exact (hdecl hk).imp (fun _ h => h) fun _ _ h => .inl h
    · next hk => exact (hassign hk).imp (fun _ h => h) fun _ _ h => .inl h
    · next hk => exact (hblock hk).imp (fun _ h => h) fun _ _ h => .inl h
    · next h₁ h₂ h₃ => exact .inl (hstart h₁ h₂ h₃)
  · split
    · next he => exact ⟨hb, he⟩
    · next he => exact .inr ⟨rfl, hb, Bool.eq_false_iff.mpr he⟩

/-- `Stmt ::= Declaration | Assignment | Block`, followed by `,`, `}` or the end of input; a
syntax error in it is recorded, and the tokens up to the statement's end are skipped. -/
theorem holds_stmt {s₀ : Cursor} {B : Cursor → Prop} {F : Halt → Cursor → Prop}
    (hdecl : s₀.lookahead.kind = .type → (s₀.note (.enter .stmt)).declaration.Holds B F)
    (hassign : s₀.lookahead.kind = .ident → (s₀.note (.enter .stmt)).assignment.Holds B F)
    (hblock : s₀.lookahead.kind = .lbrace → (s₀.note (.enter .stmt)).block.Holds B F)
    (hstart : s₀.lookahead.kind ≠ .type → s₀.lookahead.kind ≠ .ident →
      s₀.lookahead.kind ≠ .lbrace →
      ((s₀.note (.enter .stmt)).note (.report ⟨.statementStart, s₀.lookahead⟩)).skipToEnd.Holds
        (fun s₂ => D (s₂.note (.leave .stmt))) H)
    (hdone : ∀ s₁, B s₁ → s₁.lookahead.kind.endsStatement = true → D (s₁.note (.leave .stmt)))
    (hend : ∀ s₁, B s₁ → s₁.lookahead.kind.endsStatement = false →
      ((s₁.note (.report ⟨.statementEnd, s₁.lookahead⟩)).skipToEnd).Holds
        (fun s₂ => D (s₂.note (.leave .stmt))) H)
    (hunread : ∀ s₁, F .unreadable s₁ → H .unreadable s₁)
    (hfault : ∀ e s₁, F (.fault e) s₁ →
      ((s₁.note (.report e)).skipToEnd).Holds (fun s₂ => D (s₂.note (.leave .stmt))) H) :
    s₀.stmt.Holds D H := by
  -- a failed dispatch is a halt of the body like any other, at the statement's start
  let F' : Halt → Cursor → Prop := fun h s₁ => F h s₁ ∨
    (h = Halt.fault ⟨.statementStart, s₀.lookahead⟩ ∧ s₁ = s₀.note (.enter .stmt) ∧
      s₀.lookahead.kind ≠ .type ∧ s₀.lookahead.kind ≠ .ident ∧ s₀.lookahead.kind ≠ .lbrace)
  have hchecked := holds_stmt_checked (s := s₀.note (.enter .stmt)) (B := B) (F := F')
    (fun hk => (hdecl hk).imp (fun _ h => h) fun _ _ h => .inl h)
    (fun hk => (hassign hk).imp (fun _ h => h) fun _ _ h => .inl h)
    (fun hk => (hblock hk).imp (fun _ h => h) fun _ _ h => .inl h)
    (fun h₁ h₂ h₃ => .inr ⟨rfl, rfl, h₁, h₂, h₃⟩)
  rw [Cursor.stmt]
  split
  · next s₁ h₁ heq =>
    obtain ⟨hb, he⟩ := hchecked.done_of_eq heq
    exact hdone s₁ hb he
  · next s₁ h₁ heq =>
    rcases hchecked.halt_of_eq heq with (h | ⟨h, -⟩) | ⟨h, -⟩
    · exact hunread s₁ h
    · cases h
    · cases h
  · next e s₁ h₁ heq =>
    refine ((Reply.holds_widen _ _).mpr ?_).bind fun _ _ hd => hd
    rcases hchecked.halt_of_eq heq with (h | ⟨h, rfl, h₁, h₂, h₃⟩) | ⟨h, hb, he⟩
    · exact hfault e s₁ h
    · cases h
      exact hstart h₁ h₂ h₃
    · cases h
      exact hend s₁ hb he

/-- **Recovery.**  Skipping to the end of a statement records nothing; it stops at the first
token that ends a statement, and it runs out of tokens only if they do not end with the end
token. -/
theorem skipToEnd_spec (s : Cursor) :
    s.skipToEnd.Holds
      (fun s' => s.Quiet s' ∧ s'.lookahead.kind.endsStatement = true ∧
        ∃ q, s.tokens = q ++ s'.tokens ∧ ∀ t ∈ q, t.kind.endsStatement = false)
      (fun h s' => h = .unreadable ∧ s.Quiet s' ∧ ¬ s.Ready) := by
  induction s using Cursor.skipToEnd.induct with
  | case1 s hk =>
    rw [Cursor.skipToEnd, dif_pos hk, holds_finish]
    exact ⟨Quiet.refl s, hk, [], rfl, by simp⟩
  | case2 s hk s₁ ha =>
    rw [Cursor.skipToEnd, dif_neg hk]
    dsimp only
    split
    · next ha' => exact ⟨rfl, (Quiet.refl s).note rfl, fun hr => not_ready_of_advance ha' hr⟩
    · next ha' => cases ha.symm.trans ha'
  | case3 s hk s₁ s₂ ha h₂ ih =>
    have hne : s.lookahead.kind ≠ .eof := Kind.ne_eof_of_endsStatement_eq_false (by simpa using hk)
    have hq : (s.note (.skip s.lookahead)).Quiet s₂ := Quiet.advance ha
    have hs : s.Quiet s₂ := ⟨hq.suffix, by simpa [Event.error?] using hq.errors⟩
    rw [Cursor.skipToEnd, dif_neg hk]
    dsimp only
    split
    · next ha' => cases ha.symm.trans ha'
    · next s₂' ha' =>
      rw [ha] at ha'
      cases ha'
      refine (Reply.holds_widen _ _).mpr (ih.imp (fun s' hd => ?_) fun h s' hh => ?_)
      · obtain ⟨hquiet, hend, q, hq', hnot⟩ := hd
        refine ⟨hs.trans hquiet, hend, s.lookahead :: q, ?_, ?_⟩
        · have hread : s.tokens = s.lookahead :: s₂.tokens := (advance_spec ha).2.2 hne
          rw [hread, hq']
          rfl
        · intro t ht
          rcases List.mem_cons.mp ht with rfl | ht
          · exact Bool.eq_false_iff.mpr hk
          · exact hnot t ht
      · exact ⟨hh.1, hs.trans hh.2.1, fun hr => hh.2.2 (hr.of_suffix hs.suffix)⟩


/-- Skipping to the end of a statement, one token at a time. -/
theorem holds_skipToEnd {s : Cursor}
    (hend : s.lookahead.kind.endsStatement = true → D s)
    (hskip : s.lookahead.kind.endsStatement = false → ∀ s₁,
      (s.note (.skip s.lookahead)).advance = some s₁ → s₁.skipToEnd.Holds D H)
    (hnone : s.lookahead.kind.endsStatement = false →
      (s.note (.skip s.lookahead)).advance = none → H .unreadable (s.note (.skip s.lookahead))) :
    s.skipToEnd.Holds D H := by
  rw [Cursor.skipToEnd]
  refine Reply.holds_dite (fun hk => (holds_finish _).mpr (hend hk)) fun hk => ?_
  dsimp only
  split
  · next ha => exact (holds_stop _).mpr (hnone (Bool.eq_false_iff.mpr hk) ha)
  · next s₁ ha => exact (Reply.holds_widen _ _).mpr (hskip (Bool.eq_false_iff.mpr hk) s₁ ha)

/-- **Induction over the procedures of statements**, on `4 * size` plus the rank of the procedure
(`stmtList` 3, `stmt` 2, `block` 1, the repetition 0): each may assume what it calls on cursors no
larger, or smaller after a token it moved past, as a block does after its `{`. -/
theorem statement_induction (B L M S : Cursor → Prop)
    (hblock : ∀ s : Cursor, (∀ s' : Cursor, s'.size < s.size → L s') → B s)
    (hstmtList : ∀ s : Cursor, (∀ s' : Cursor, s'.size ≤ s.size → S s') →
      (∀ s' : Cursor, s'.size ≤ s.size → M s') → L s)
    (hmoreStmts : ∀ s : Cursor, (∀ s' : Cursor, s'.size < s.size → S s') →
      (∀ s' : Cursor, s'.size < s.size → M s') → M s)
    (hstmt : ∀ s : Cursor, (∀ s' : Cursor, s'.size ≤ s.size → B s') → S s) :
    (∀ s, B s) ∧ (∀ s, L s) ∧ (∀ s, M s) ∧ (∀ s, S s) := by
  -- everything below the measure `m` holds, for every `m`
  have hall : ∀ m : Nat, (∀ s : Cursor, 4 * s.size + 1 < m → B s) ∧
      (∀ s : Cursor, 4 * s.size + 3 < m → L s) ∧ (∀ s : Cursor, 4 * s.size < m → M s) ∧
      (∀ s : Cursor, 4 * s.size + 2 < m → S s) := by
    intro m
    induction m with
    | zero =>
      exact ⟨fun _ h => absurd h (Nat.not_lt_zero _), fun _ h => absurd h (Nat.not_lt_zero _),
        fun _ h => absurd h (Nat.not_lt_zero _), fun _ h => absurd h (Nat.not_lt_zero _)⟩
    | succ m ih =>
      obtain ⟨ihB, ihL, ihM, ihS⟩ := ih
      refine ⟨fun s hs => hblock s fun s' h => ihL s' (by omega),
        fun s hs => hstmtList s (fun s' h => ihS s' (by omega)) fun s' h => ihM s' (by omega),
        fun s hs => hmoreStmts s (fun s' h => ihS s' (by omega)) fun s' h => ihM s' (by omega),
        fun s hs => hstmt s fun s' h => ihB s' (by omega)⟩
  exact ⟨fun s => (hall _).1 s (Nat.lt_succ_self _), fun s => (hall _).2.1 s (Nat.lt_succ_self _),
    fun s => (hall (4 * s.size + 1)).2.2.1 s (by omega), fun s => (hall _).2.2.2 s (Nat.lt_succ_self _)⟩

end Cursor

end BlockSyntax
