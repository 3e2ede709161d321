import BlockSyntax.Syntax.Check
import BlockSyntax.Proofs.Grammar

/-! # Reasoning about the checker's procedures

A procedure of the checker maps a cursor to a `Reply`: it ends normally or halts, on a later
cursor.  `Reply.Holds r D H` says that `r` ends normally on a cursor satisfying `D`, or halts with
`e` on one satisfying `H e`; its rules follow the combinators the procedures are written with
(`Holds.bind`, `holds_widen`, `holds_consume`), so that a procedure's specification is proved by
walking through its body once.

A cursor is seen through the tokens from its lookahead on, their kinds, and the syntax errors
recorded so far.  Every procedure only moves on: what is left is a suffix of what was there, and
the errors recorded before stay in front (`Cursor.Later`).  The procedures of expressions record
no error at all (`Cursor.Quiet`).
-/

namespace BlockSyntax

/-- The syntax error an event records, if it records one. -/
def Event.error? : Event → Option SyntaxError
  | .report e => some e
  | _ => none

namespace Cursor

/-- The tokens from the lookahead on. -/
def tokens (s : Cursor) : List Token :=
  s.lookahead :: s.ahead

/-- The kinds of the tokens from the lookahead on. -/
def kinds (s : Cursor) : List Kind :=
  s.tokens.map Token.kind

/-- The syntax errors recorded so far, in order. -/
def errors (s : Cursor) : List SyntaxError :=
  s.log.toList.filterMap Event.error?

/-- The tokens end with the end token, so every pull is answered. -/
def Ready (s : Cursor) : Prop :=
  ∃ p t, s.tokens = p ++ [t] ∧ t.kind = .eof

@[simp] theorem tokens_note (s : Cursor) (e : Event) : (s.note e).tokens = s.tokens := rfl

@[simp] theorem kinds_note (s : Cursor) (e : Event) : (s.note e).kinds = s.kinds := rfl

@[simp] theorem errors_note (s : Cursor) (e : Event) :
    (s.note e).errors = s.errors ++ e.error?.toList := by
  simp only [errors, note, Array.toList_push, List.filterMap_append, List.filterMap_cons,
    List.filterMap_nil]
  cases e.error? <;> rfl

theorem Ready.of_suffix {s s' : Cursor} (h : s.Ready) (hs : s'.tokens <:+ s.tokens) : s'.Ready := by
  obtain ⟨p, t, hp, ht⟩ := h
  obtain ⟨q, hq⟩ := hs
  -- the tokens left are not empty, so they end with the same last token
  obtain ⟨p', x, hx⟩ := (List.eq_nil_or_concat s'.tokens).resolve_left (List.cons_ne_nil _ _)
  rw [List.concat_eq_append] at hx
  rw [hx, ← List.append_assoc, hp] at hq
  obtain ⟨-, hxt⟩ := List.append_inj' hq rfl
  exact ⟨p', t, by rw [hx, List.singleton_inj.mp hxt], ht⟩

/-- Pulling a token keeps the errors and leaves a suffix; it moves past the lookahead unless that
is the end token. -/
theorem advance_spec {s s' : Cursor} (h : s.advance = some s') :
    s'.errors = s.errors ∧ s'.tokens <:+ s.tokens ∧
      (s.lookahead.kind ≠ .eof → s.tokens = s.lookahead :: s'.tokens) := by
  unfold advance at h
  split at h
  · next t rest hs =>
    cases h
    refine ⟨by simp [errors, Event.error?], ?_, fun _ => ?_⟩
    · exact ⟨[s.lookahead], by simp [tokens, hs]⟩
    · simp [tokens, hs]
  · next hs =>
    split at h
    · next hk =>
      cases h
      refine ⟨by simp [errors, Event.error?], ?_, fun hne => absurd hk hne⟩
      exact ⟨[], by simp [tokens, hs]⟩
    · cases h

/-- A pull is refused only when the tokens run out before the end token. -/
theorem not_ready_of_advance {s : Cursor} (h : s.advance = none) : ¬ s.Ready := by
  rintro ⟨p, t, hp, ht⟩
  unfold advance at h
  split at h
  · cases h
  · next hs =>
    split at h
    · cases h
    · next hk =>
      have : p = [] ∧ s.lookahead = t := by
        cases p with
        | nil => simpa [tokens, hs] using hp
        | cons x p =>
          have := congrArg List.length hp
          simp [tokens, hs] at this
      exact hk (this.2 ▸ ht)

/-- `s'` comes after `s` in a check: fewer tokens are left and the errors recorded at `s` stay in
front. -/
structure Later (s s' : Cursor) : Prop where
  suffix : s'.tokens <:+ s.tokens
  errors : s.errors <+: s'.errors

/-- `s'` comes after `s` in a check that recorded no error in between. -/
structure Quiet (s s' : Cursor) : Prop where
  suffix : s'.tokens <:+ s.tokens
  errors : s'.errors = s.errors

theorem Later.refl (s : Cursor) : s.Later s := ⟨List.suffix_refl _, List.prefix_refl _⟩

theorem Later.trans {s₁ s₂ s₃ : Cursor} (h₁ : s₁.Later s₂) (h₂ : s₂.Later s₃) : s₁.Later s₃ :=
  ⟨h₂.suffix.trans h₁.suffix, h₁.errors.trans h₂.errors⟩

theorem Quiet.refl (s : Cursor) : s.Quiet s := ⟨List.suffix_refl _, rfl⟩

theorem Quiet.trans {s₁ s₂ s₃ : Cursor} (h₁ : s₁.Quiet s₂) (h₂ : s₂.Quiet s₃) : s₁.Quiet s₃ :=
  ⟨h₂.suffix.trans h₁.suffix, h₂.errors.trans h₁.errors⟩

theorem Quiet.later {s s' : Cursor} (h : s.Quiet s') : s.Later s' :=
  ⟨h.suffix, h.errors ▸ List.prefix_refl _⟩

/-- Recording an event that is no error keeps a check quiet. -/
theorem Quiet.note {s s' : Cursor} (h : s.Quiet s') {e : Event} (he : e.error? = none) :
    s.Quiet (s'.note e) :=
  ⟨h.suffix, by simp [he, h.errors]⟩

theorem Later.note {s s' : Cursor} (h : s.Later s') (e : Event) : s.Later (s'.note e) :=
  ⟨h.suffix, by simpa using h.errors.trans (List.prefix_append _ _)⟩

theorem Quiet.advance {s s' : Cursor} (h : s.advance = some s') : s.Quiet s' :=
  ⟨(advance_spec h).2.1, (advance_spec h).1⟩

end Cursor

namespace Reply

/-- `r` ends normally on a cursor satisfying `D`, or halts with `e` on one satisfying `H e`. -/
def Holds {n : Nat} (r : Reply n) (D : Cursor → Prop) (H : Halt → Cursor → Prop) : Prop :=
  match r with
  | done s _ => D s
  | halt e s _ => H e s

variable {n : Nat} {D E : Cursor → Prop} {H H' : Halt → Cursor → Prop}

@[simp] theorem holds_done {s : Cursor} {h : s.size ≤ n} : (done s h).Holds D H ↔ D s := Iff.rfl

@[simp] theorem holds_halt {e : Halt} {s : Cursor} {h : s.size ≤ n} :
    (halt e s h).Holds D H ↔ H e s := Iff.rfl

@[simp] theorem holds_widen {m : Nat} (hm : n ≤ m) (r : Reply n) :
    (r.widen hm).Holds D H ↔ r.Holds D H := by
  cases r <;> rfl

theorem Holds.imp {r : Reply n} (hr : r.Holds D H) (hD : ∀ s, D s → E s)
    (hH : ∀ e s, H e s → H' e s) : r.Holds E H' := by
  cases r with
  | done s _ => exact hD s hr
  | halt e s _ => exact hH e s hr

/-- Two specifications of one reply hold together, the second under a side condition `Q`. -/
theorem Holds.and_imp {r : Reply n} {Q : Prop} (h₁ : r.Holds D H) (h₂ : Q → r.Holds E H') :
    r.Holds (fun s => D s ∧ (Q → E s)) fun e s => H e s ∧ (Q → H' e s) := by
  cases r with
  | done s _ => exact ⟨h₁, h₂⟩
  | halt e s _ => exact ⟨h₁, h₂⟩

/-- Sequencing: after a normal end satisfying `E`, the continuation must satisfy the
specification; a halt passes through. -/
theorem Holds.bind {r : Reply n} {k : (s : Cursor) → s.size ≤ n → Reply n} (hr : r.Holds E H)
    (hk : ∀ s h, E s → (k s h).Holds D H) : (r.bind k).Holds D H := by
  cases r with
  | done s h => exact hk s h hr
  | halt e s h => exact hr

theorem Holds.done_of_eq {r : Reply n} {s : Cursor} {h : s.size ≤ n} (hr : r.Holds D H)
    (he : r = .done s h) : D s := by
  subst he
  exact hr

theorem Holds.halt_of_eq {r : Reply n} {e : Halt} {s : Cursor} {h : s.size ≤ n} (hr : r.Holds D H)
    (he : r = .halt e s h) : H e s := by
  subst he
  exact hr

/-- A test on a condition: each branch must satisfy the specification under its outcome. -/
theorem holds_dite {c : Prop} [Decidable c] {t : c → Reply n} {e : ¬ c → Reply n}
    (ht : ∀ h : c, (t h).Holds D H) (he : ∀ h : ¬ c, (e h).Holds D H) :
    (dite c t e).Holds D H := by
  by_cases h : c
  · rw [dif_pos h]; exact ht h
  · rw [dif_neg h]; exact he h

end Reply

namespace Cursor

variable {D : Cursor → Prop} {H : Halt → Cursor → Prop}

@[simp] theorem holds_finish (s : Cursor) : s.finish.Holds D H ↔ D s := Iff.rfl

@[simp] theorem holds_stop (s : Cursor) : s.stop.Holds D H ↔ H .unreadable s := Iff.rfl

@[simp] theorem holds_fail (s : Cursor) (p : Problem) :
    (s.fail p).Holds D H ↔ H (.fault ⟨p, s.lookahead⟩) s := Iff.rfl

theorem holds_consume {s : Cursor} {k : Kind}
    (hyes : ∀ s', s.lookahead.kind = k → s.advance = some s' → D s')
    (hnone : s.advance = none → H .unreadable s)
    (hno : s.lookahead.kind ≠ k → H (.fault ⟨.expected k, s.lookahead⟩) s) :
    (s.consume k).Holds D H := by
  unfold consume
  split
  · next hk =>
    split
    · next s' ha => exact hyes s' hk ha
    · next ha => exact hnone ha
  · next hk => exact hno hk

end Cursor

/-! ### The kinds the checker tests for, by name -/

namespace Kind

theorem isAddOp_iff {k : Kind} : k.isAddOp = true ↔ k = .add ∨ k = .sub := by
  cases k <;> simp [isAddOp]

theorem isMulOp_iff {k : Kind} : k.isMulOp = true ↔ k = .mul ∨ k = .div ∨ k = .mod := by
  cases k <;> simp [isMulOp]

theorem isOperand_iff {k : Kind} : k.isOperand = true ↔ k = .int ∨ k = .float ∨ k = .ident := by
  cases k <;> simp [isOperand]

theorem endsStatement_iff {k : Kind} :
    k.endsStatement = true ↔ k = .comma ∨ k = .rbrace ∨ k = .eof := by
  cases k <;> simp [endsStatement]

end Kind

namespace Symbol

/-- An expression, or its repetition, is closed exactly where the checker stops extending it. -/
theorem closes_exp_iff {k : Kind} : Symbol.exp.Closes k ↔ k.isAddOp = false ∧ k.isMulOp = false := by
  cases k <;> simp [Closes, Kind.isAddOp, Kind.isMulOp]

/-- A term, or its repetition, is closed exactly where the checker stops extending it. -/
theorem closes_term_iff {k : Kind} : Symbol.term.Closes k ↔ k.isMulOp = false := by
  cases k <;> simp [Closes, Kind.isMulOp]

/-- A statement is closed exactly where the checker's test after a statement passes. -/
theorem closes_stmt_iff {k : Kind} : Symbol.stmt.Closes k ↔ k.endsStatement = true := by
  cases k <;> simp [Closes, Kind.endsStatement]

end Symbol

end BlockSyntax
