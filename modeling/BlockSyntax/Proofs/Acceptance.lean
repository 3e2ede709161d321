import BlockSyntax.Proofs.StatementCheck
import BlockSyntax.Proofs.TextScan
import BlockSyntax.Report

/-! # The checker accepts exactly the sentences

`statement_sound` gives one direction: a check that records no error has read a sentence.  The
other direction is by induction on the derivation of a phrase: each procedure, started on a
phrase of its symbol followed by a token that closes it, reads the phrase and records nothing
(`run_complete`).  For the procedures of expressions and of statement bodies this follows from
their own specifications: a fault would make a prefix of the phrase non-viable, and a normal end
stops where the phrase ends, since the rest after a phrase is unique.

The scanner's tokens end with the end token and hold no other (`lexAll_terminated`).  On such
tokens the check is never cut short and records no error exactly when their kinds form a
sentence (`check_spec`); for a text this is `success_iff_sentence`.
-/

namespace BlockSyntax

namespace Symbol

/-- The procedure of the checker that reads `sym`. -/
def run : Symbol → (s : Cursor) → Reply s.size
  | block => Cursor.block
  | stmtList => Cursor.stmtList
  | moreStmts => Cursor.moreStmts
  | stmt => Cursor.stmt
  | exp => Cursor.exp
  | moreTerms => Cursor.moreTerms
  | term => Cursor.term
  | moreFactors => Cursor.moreFactors
  | factor => Cursor.factor

end Symbol

namespace Derives

/-- A phrase holds no error token. -/
theorem error_not_mem {sym : Symbol} {w z : List Kind} (h : Derives sym w z) (hz : .error ∉ z) :
    .error ∉ w := by
  induction h with
  | moreTerms_cons op _ _ ih₁ ih₂ => rcases op with rfl | rfl <;> simp [ih₁ (ih₂ hz)]
  | moreFactors_cons op _ _ ih₁ ih₂ => rcases op with rfl | rfl | rfl <;> simp [ih₁ (ih₂ hz)]
  | _ => simp_all

end Derives

namespace Cursor

/-- A procedure started on `s` read up to the kinds `z` and recorded nothing. -/
def ReadTo (z : List Kind) (s s' : Cursor) : Prop :=
  s.Quiet s' ∧ s'.kinds = z

theorem ReadTo.trans {v z : List Kind} {s₁ s₂ s₃ : Cursor} (h₁ : ReadTo v s₁ s₂)
    (h₂ : ReadTo z s₂ s₃) : ReadTo z s₁ s₃ :=
  ⟨h₁.1.trans h₂.1, h₂.2⟩

theorem ReadTo.enter {z : List Kind} {s s' : Cursor} {p : Procedure}
    (h : ReadTo z (s.note (.enter p)) s') : ReadTo z s s' :=
  ⟨(quiet_note_left rfl).mp h.1, h.2⟩

theorem ReadTo.leave {z : List Kind} {s s' : Cursor} (h : ReadTo z s s') (p : Procedure) :
    ReadTo z s (s'.note (.leave p)) :=
  ⟨h.1.note rfl, h.2⟩

theorem kinds_cons (s : Cursor) : s.kinds = s.lookahead.kind :: s.ahead.map Token.kind := rfl

theorem lookahead_of_kinds {s : Cursor} {k : Kind} {w : List Kind} (h : s.kinds = k :: w) :
    s.lookahead.kind = k :=
  (List.cons.inj h).1

theorem closes_of_kinds {sym : Symbol} {s : Cursor} {w : List Kind} (h : s.kinds = w)
    (hw : sym.ClosedBy w) : sym.Closes s.lookahead.kind := by
  rw [← h, kinds_cons] at hw
  exact hw

/-- Moving past a token that is not the end token leaves the kinds after it. -/
theorem kinds_after {s s₁ : Cursor} {k : Kind} {w : List Kind} (h : s.kinds = k :: w)
    (hk : k ≠ .eof) (ha : s.advance = some s₁) : s₁.kinds = w := by
  have := kinds_of_advance ha (lookahead_of_kinds h ▸ hk)
  exact (List.cons.inj (h.symm.trans this)).2.symm

theorem ReadTo.ends {z : List Kind} {s s' : Cursor} (h : ReadTo z s s')
    (hz : Symbol.stmt.ClosedBy z) : s'.lookahead.kind.endsStatement = true :=
  Symbol.closes_stmt_iff.mp (closes_of_kinds h.2 hz)

/-- The tokens a phrase of `sym` starts with, followed by the lookahead after them, are
viable. -/
theorem viable_read {sym : Symbol} {s s' : Cursor} {z : List Kind} {q : List Token}
    (hd : Derives sym s.kinds z) (hz : sym.ClosedBy z) (hq : s.tokens = q ++ s'.tokens) :
    sym.Viable (q.map Token.kind ++ [s'.lookahead.kind]) := by
  refine ⟨s'.ahead.map Token.kind, z, hz, ?_⟩
  rw [kinds_eq_of_tokens hq, kinds_cons] at hd
  simpa using hd

/-- On a phrase of `sym` that ends with the end token, no halt of the `ExpHalt` kind occurs. -/
theorem ExpHalt.not_of_derives {sym : Symbol} {s s' : Cursor} {z : List Kind} {h : Halt}
    (hh : ExpHalt sym s h s') (hd : Derives sym s.kinds z) (hz : sym.ClosedBy z) (hr : s.Ready) :
    False := by
  cases h with
  | unreadable => exact hh.2 hr
  | fault e =>
    obtain ⟨-, htok, q, hq, -, hv⟩ := hh
    rw [htok] at hv
    exact hv (viable_read hd hz hq)

/-- Started on a phrase, a procedure of expressions reads it. -/
theorem exp_complete {sym : Symbol} {n : Nat} {r : Reply n} {s : Cursor} {z : List Kind}
    (hspec : r.Holds (ExpDone sym s) (ExpHalt sym s)) (hd : Derives sym s.kinds z)
    (hz : sym.ClosedBy z) (hr : s.Ready) : r.Holds (ReadTo z s) fun _ _ => False :=
  hspec.imp (fun _ hd' => ⟨hd'.1, Derives.rest_unique hd'.2.1 hd (closedBy_of_head rfl hd'.2.2) hz⟩)
    fun _ _ hh => hh.not_of_derives hd hz hr

/-- Started on a statement, the body of a statement reads it and stops where it ends. -/
theorem body_complete {n : Nat} {r : Reply n} {s : Cursor} {z : List Kind}
    (hspec : r.Holds (BodyDone s) (ExpHalt .stmt s)) (hd : Derives .stmt s.kinds z)
    (hz : Symbol.stmt.ClosedBy z) (hr : s.Ready) :
    r.Holds (fun s' => ReadTo z s s' ∧ s'.lookahead.kind.endsStatement = true) fun _ _ => False := by
  refine hspec.imp (fun s' hd' => ?_) fun _ _ hh => hh.not_of_derives hd hz hr
  obtain ⟨hq, hder, hstuck⟩ := hd'
  obtain ⟨q, hqt⟩ := hq.consumed
  -- a lookahead that does not close the statement would make the phrase non-viable
  have hcl : Symbol.stmt.Closes s'.lookahead.kind :=
    Classical.byContradiction fun hcl => hstuck q hqt hcl (viable_read hd hz hqt)
  exact ⟨⟨hq, Derives.rest_unique hder hd (closedBy_of_head rfl hcl) hz⟩,
    Symbol.closes_stmt_iff.mp hcl⟩

/-- Started on a statement, the procedure of statements reads it, given that the body its first
token selects does. -/
theorem stmt_complete {s : Cursor} {z : List Kind}
    (hdecl : s.lookahead.kind = .type → (s.note (.enter .stmt)).declaration.Holds
      (fun s' => ReadTo z (s.note (.enter .stmt)) s' ∧ s'.lookahead.kind.endsStatement = true)
      fun _ _ => False)
    (hassign : s.lookahead.kind = .ident → (s.note (.enter .stmt)).assignment.Holds
      (fun s' => ReadTo z (s.note (.enter .stmt)) s' ∧ s'.lookahead.kind.endsStatement = true)
      fun _ _ => False)
    (hblock : s.lookahead.kind = .lbrace → (s.note (.enter .stmt)).block.Holds
      (fun s' => ReadTo z (s.note (.enter .stmt)) s' ∧ s'.lookahead.kind.endsStatement = true)
      fun _ _ => False)
    (hstart : s.lookahead.kind = .type ∨ s.lookahead.kind = .ident ∨ s.lookahead.kind = .lbrace) :
    s.stmt.Holds (ReadTo z s) fun _ _ => False :=
  holds_stmt hdecl hassign hblock
    (fun h₁ h₂ h₃ => by rcases hstart with h | h | h <;> contradiction)
    (fun _ hb _ => hb.1.enter.leave _) (fun _ hb he => absurd hb.2 (by simp [he]))
    (fun _ h => h.elim) fun _ _ h => h.elim

theorem isMulOp_of_closes {k : Kind} (h : Symbol.moreTerms.Closes k) : k.isMulOp = false :=
  (Symbol.closes_exp_iff.mp h).2

theorem isMulOp_of_isAddOp {k : Kind} (h : k = .add ∨ k = .sub) : k.isMulOp = false := by
  rcases h with rfl | rfl <;> rfl

/-- **Completeness.**  Started on a phrase of its symbol, followed by a token that closes it, on
tokens that end with the end token, each procedure reads the phrase and records nothing. -/
theorem run_complete {sym : Symbol} {w z : List Kind} (h : Derives sym w z) :
    ∀ s : Cursor, s.kinds = w → s.Ready → sym.ClosedBy z →
      (sym.run s).Holds (ReadTo z s) fun _ _ => False := by
  induction h with
  | block list ih =>
    intro s hs hr _
    have hk := lookahead_of_kinds hs
    refine holds_block (fun _ s₁ ha => ?_)
      (fun _ ha => absurd hr (not_ready_of_advance (s := s.note (.enter .block)) ha))
      fun hne => absurd hk hne
    have hq₁ : s.Quiet s₁ := ((Quiet.refl s).note rfl).trans (Quiet.advance ha)
    refine (ih s₁ (kinds_after (s := s.note (.enter .block)) hs (by decide) ha)
      (hr.of_suffix hq₁.suffix) (.inl rfl)).imp (fun s₂ hd₂ => ?_) fun _ _ h => h
    have hq₂ : s.Quiet s₂ := hq₁.trans hd₂.1
    refine holds_consume (fun s₃ _ ha₃ => ?_) (fun ha₃ => absurd hr ?_)
      fun hne => hne (lookahead_of_kinds hd₂.2)
    · exact ReadTo.leave ⟨hq₂.trans (Quiet.advance ha₃), kinds_after hd₂.2 (by decide) ha₃⟩ _
    · exact fun hr' => not_ready_of_advance ha₃ (hr'.of_suffix hq₂.suffix)
  | stmtList first rest ih₁ ih₂ =>
    intro s hs hr hz
    refine holds_stmtList ((ih₁ (s.note (.enter .stmtList)) hs hr
      (Derives.closedBy_stmt rest hz)).imp (fun s₁ hd₁ => ?_) fun _ _ h => h)
    refine (ih₂ s₁ hd₁.2 (hr.of_suffix hd₁.1.suffix) hz).imp (fun s₂ hd₂ => ?_) fun _ _ h => h
    exact (hd₁.trans hd₂).enter.leave _
  | moreStmts_nil =>
    intro s hs _ hz
    have hk : s.lookahead.kind ≠ .comma := by
      rcases closes_of_kinds hs hz with h | h <;> rw [h] <;> decide
    exact holds_moreStmts (fun hc => absurd hc hk) (fun hc => absurd hc hk)
      fun _ => ⟨Quiet.refl s, hs⟩
  | moreStmts_cons next rest ih₁ ih₂ =>
    intro s hs hr hz
    have hk := lookahead_of_kinds hs
    refine holds_moreStmts (fun _ s₁ ha => ?_) (fun _ ha => absurd hr (not_ready_of_advance ha))
      fun hne => absurd hk hne
    have hq₁ : s.Quiet s₁ := Quiet.advance ha
    refine (ih₁ s₁ (kinds_after hs (by decide) ha) (hr.of_suffix hq₁.suffix)
      (Derives.closedBy_stmt rest hz)).imp (fun s₂ hd₂ => ?_) fun _ _ h => h
    refine (ih₂ s₂ hd₂.2 (hr.of_suffix (hq₁.trans hd₂.1).suffix) hz).imp (fun s₃ hd₃ => ?_)
      fun _ _ h => h
    exact (ReadTo.trans ⟨hq₁, rfl⟩ hd₂).trans hd₃
  | declaration =>
    intro s hs hr hz
    have hk := lookahead_of_kinds hs
    refine stmt_complete (fun _ => body_complete (declaration_spec (s.note (.enter .stmt)) hk)
      (by rw [kinds_note, hs]; exact .declaration) hz hr) (fun h => absurd (hk.symm.trans h) (by decide))
      (fun h => absurd (hk.symm.trans h) (by decide)) (.inl hk)
  | assignment value =>
    intro s hs hr hz
    have hk := lookahead_of_kinds hs
    refine stmt_complete (fun h => absurd (hk.symm.trans h) (by decide))
      (fun _ => body_complete (assignment_spec (s.note (.enter .stmt)) hk)
        (by rw [kinds_note, hs]; exact .assignment value) hz hr)
      (fun h => absurd (hk.symm.trans h) (by decide)) (.inr (.inl hk))
  | nested inner ih =>
    intro s hs hr hz
    have hk : s.lookahead.kind = .lbrace := by
      cases inner
      exact lookahead_of_kinds hs
    refine stmt_complete (fun h => absurd (hk.symm.trans h) (by decide))
      (fun h => absurd (hk.symm.trans h) (by decide)) (fun _ => ?_) (.inr (.inr hk))
    exact (ih (s.note (.enter .stmt)) hs hr (Derives.closedBy_block hz)).imp (fun s' h => ⟨h, h.ends hz⟩) fun _ _ h => h
  | exp first rest =>
    intro s hs hr hz
    exact exp_complete (expression_spec.1 s) (hs ▸ .exp first rest) hz hr
  | moreTerms_nil =>
    intro s hs hr hz
    exact exp_complete (expression_spec.2.1 s (isMulOp_of_closes (closes_of_kinds hs hz)))
      (hs ▸ .moreTerms_nil) hz hr
  | moreTerms_cons op next rest =>
    intro s hs hr hz
    exact exp_complete (expression_spec.2.1 s (isMulOp_of_isAddOp (lookahead_of_kinds hs ▸ op)))
      (hs ▸ .moreTerms_cons op next rest) hz hr
  | term first rest =>
    intro s hs hr hz
    exact exp_complete (expression_spec.2.2.1 s) (hs ▸ .term first rest) hz hr
  | moreFactors_nil =>
    intro s hs hr hz
    exact exp_complete (expression_spec.2.2.2.1 s) (hs ▸ .moreFactors_nil) hz hr
  | moreFactors_cons op next rest =>
    intro s hs hr hz
    exact exp_complete (expression_spec.2.2.2.1 s) (hs ▸ .moreFactors_cons op next rest) hz hr
  | int =>
    intro s hs hr hz
    exact exp_complete (expression_spec.2.2.2.2 s) (hs ▸ .int) hz hr
  | float =>
    intro s hs hr hz
    exact exp_complete (expression_spec.2.2.2.2 s) (hs ▸ .float) hz hr
  | ident =>
    intro s hs hr hz
    exact exp_complete (expression_spec.2.2.2.2 s) (hs ▸ .ident) hz hr
  | paren inner =>
    intro s hs hr hz
    exact exp_complete (expression_spec.2.2.2.2 s) (hs ▸ .paren inner) hz hr

end Cursor

/-! ### Whole checks -/

/-- Tokens that end with the end token and hold no other, as the scanner produces them. -/
def Terminated (toks : List Token) : Prop :=
  ∃ p t, toks = p ++ [t] ∧ t.kind = .eof ∧ ∀ t' ∈ p, t'.kind ≠ .eof

/-- The scanner's tokens end with the end token and hold no other. -/
theorem lexAll_terminated (pos : Position) (cs : List Char) : Terminated (lexAll pos cs) := by
  -- on the length of what is left, which every token but the end token shortens
  generalize hn : cs.length = n
  induction n using Nat.strongRecOn generalizing pos cs with
  | ind n ih =>
    rw [lexAll_eq]
    dsimp only
    split
    · next hk => exact ⟨[], _, rfl, hk, by simp⟩
    · next hk =>
      obtain ⟨p, t, hp, ht, hno⟩ := ih _ (hn ▸ Mode.lex_start_rest_lt hk) _ _ rfl
      refine ⟨_ :: p, t, by rw [hp]; rfl, ht, fun t' ht' => ?_⟩
      rcases List.mem_cons.mp ht' with rfl | ht'
      · exact hk
      · exact hno t' ht'

theorem Terminated.ready {s : Cursor} (h : Terminated s.tokens) : s.Ready := by
  obtain ⟨p, t, hp, ht, -⟩ := h
  exact ⟨p, t, hp, ht⟩

/-- On terminated tokens, a cursor whose lookahead is the end token has nothing else left. -/
theorem Terminated.kinds_of_eof {toks : List Token} {s : Cursor} (h : Terminated toks)
    (hs : s.tokens <:+ toks) (hk : s.lookahead.kind = .eof) : s.kinds = [.eof] := by
  obtain ⟨p, t, rfl, ht, hno⟩ := h
  obtain ⟨q, hq⟩ := hs
  cases hahead : s.ahead with
  | nil => simp [Cursor.kinds, Cursor.tokens, hahead, hk]
  | cons a rest =>
    -- otherwise the lookahead would be an end token before the last token
    have hp : p = q ++ s.lookahead :: (a :: rest).dropLast := by
      have := congrArg List.dropLast hq
      rw [List.dropLast_concat, Cursor.tokens, hahead, List.dropLast_append_of_ne_nil (by simp),
        List.dropLast_cons_cons] at this
      exact this.symm
    exact absurd hk (hno _ (by simp [hp]))

theorem Verdict.errors_finished (s : Cursor) : (Verdict.finished s).errors = s.errors := rfl

namespace Cursor

/-- `Program ::= Block EOF`: when the block and the end token are read with no halt for want of
tokens, the program is never cut short, and its errors are those of the run, followed by the
fault it halted on, if it halted. -/
theorem program_verdict (s₀ : Cursor) {P : List SyntaxError → Prop}
    (hrun : ((s₀.note (.enter .program)).block.bind fun s₁ h₁ => (s₁.consume .eof).widen h₁).Holds
      (fun s₁ => P s₁.errors) fun h s₁ => ∃ e, h = .fault e ∧ P (s₁.errors ++ [e])) :
    (∃ s, s₀.program = .finished s) ∧ P s₀.program.errors := by
  unfold Cursor.program
  dsimp only
  generalize ((s₀.note (.enter .program)).block.bind fun s₁ h₁ => (s₁.consume .eof).widen h₁) = r
    at hrun ⊢
  cases r with
  | done s₁ h₁ =>
    have hp : P s₁.errors := hrun
    exact ⟨⟨_, rfl⟩, by simpa [Verdict.errors_finished, Event.error?] using hp⟩
  | halt h s₁ h₁ =>
    obtain ⟨e, rfl, hp⟩ := hrun
    exact ⟨⟨_, rfl⟩, by simpa [Verdict.errors_finished, Event.error?] using hp⟩

/-- **Whole programs.**  Started on terminated tokens, with no error recorded yet, the program
procedure is never cut short, and it records no error exactly when the kinds of the tokens form
a sentence. -/
theorem program_spec (s₀ : Cursor) (ht : Terminated s₀.tokens) (he : s₀.errors = []) :
    (∃ s, s₀.program = .finished s) ∧ (s₀.program.errors = [] ↔ Sentence s₀.kinds) := by
  have hr : (s₀.note (.enter .program)).Ready := ht.ready
  have hes : (s₀.note (.enter .program)).errors = [] := by simp [he, Event.error?]
  -- soundness: a run with no error read a sentence, and no run is cut short
  have hsound : ((s₀.note (.enter .program)).block.bind fun s₁ h₁ =>
      (s₁.consume .eof).widen h₁).Holds (fun s₁ => s₁.errors = [] → Sentence s₀.kinds)
      fun h _ => h ≠ .unreadable := by
    refine ((statement_sound.1 _).imp (fun _ h => h) fun _ _ hh hu => hh.2 hu hr).bind
      fun s₂ _ hd₂ => (Reply.holds_widen _ _).mpr ?_
    refine holds_consume (fun s₃ hk ha he₃ => ?_)
      (fun ha => absurd (hr.of_suffix hd₂.1.suffix) (not_ready_of_advance ha)) fun _ h => by cases h
    have hder := hd₂.2 (by rw [← (advance_spec ha).1, he₃, hes])
    rw [ht.kinds_of_eof hd₂.1.suffix hk] at hder
    exact hder
  -- completeness: on a sentence the run records no error
  have hcomplete : Sentence s₀.kinds → ((s₀.note (.enter .program)).block.bind fun s₁ h₁ =>
      (s₁.consume .eof).widen h₁).Holds (fun s₁ => s₁.errors = []) fun _ _ => False := by
    intro hsent
    refine (run_complete hsent (s₀.note (.enter .program)) rfl hr trivial).bind fun s₂ _ hd₂ => (Reply.holds_widen _ _).mpr ?_
    refine holds_consume (fun s₃ _ ha => ?_)
      (fun ha => not_ready_of_advance ha (hr.of_suffix hd₂.1.suffix))
      fun hne => hne (lookahead_of_kinds hd₂.2)
    rw [(advance_spec ha).1, hd₂.1.errors, hes]
  refine program_verdict s₀ (P := fun es => es = [] ↔ Sentence s₀.kinds)
    ((hsound.and_imp hcomplete).imp (fun _ h => ⟨h.1, h.2⟩) fun h _ hh => ?_)
  -- a run that halts has a fault, so it recorded an error and its tokens are no sentence
  cases h with
  | fault e => exact ⟨e, rfl, by simpa using hh.2⟩
  | unreadable => exact absurd rfl hh.1

end Cursor

/-- **Checks.**  On terminated tokens the check is never cut short, and it records no error
exactly when the kinds of the tokens form a sentence. -/
theorem check_spec {toks : List Token} (ht : Terminated toks) :
    (∃ s, check toks = .finished s) ∧ ((check toks).errors = [] ↔ Sentence (toks.map Token.kind)) := by
  cases toks with
  | nil =>
    obtain ⟨p, t, hp, -⟩ := ht
    simp at hp
  | cons t rest => exact Cursor.program_spec ⟨t, rest, #[.pull]⟩ ht rfl

theorem terminated_ofString (s : String) :
    Terminated (Reader.ofFeed (Feed.ofString s)).tape.tokens := by
  rw [tokens_ofString]
  exact lexAll_terminated _ _

/-- A text is always read to its end, so its check succeeds exactly when it records no syntax
error. -/
theorem success_ofString_iff (s : String) :
    (Report.ofFeed (Feed.ofString s)).success = true ↔
      (check (Reader.ofFeed (Feed.ofString s)).tape.tokens).errors = [] := by
  have hnone : (Report.ofFeed (Feed.ofString s)).failure = none := by
    simp only [Report.ofFeed, Report.ofTape]
    split <;> simp [(Reader.tape_lexAll (Reader.plain_ofString s)).2]
  simp only [Report.success, Report.readFailure?, hnone, Option.map_none, Option.isNone_none,
    Bool.true_and, List.isEmpty_iff]
  exact Iff.rfl

/-- **A text is accepted exactly when it is a sentence.**  The check of a text succeeds, with no
read failure and no syntax error, exactly when the kinds of its tokens, the end token included,
form a sentence of `Block EOF`. -/
theorem success_iff_sentence (s : String) :
    (Report.ofFeed (Feed.ofString s)).success = true ↔
      Sentence ((Reader.ofFeed (Feed.ofString s)).tape.tokens.map Token.kind) :=
  (success_ofString_iff s).trans (check_spec (terminated_ofString s)).2

/-- A single error token anywhere in a text makes its check fail. -/
theorem success_eq_false_of_error {s : String} {t : Token}
    (ht : t ∈ (Reader.ofFeed (Feed.ofString s)).tape.tokens) (hk : t.kind = .error) :
    (Report.ofFeed (Feed.ofString s)).success = false := by
  rw [← Bool.not_eq_true, success_ofString_iff, (check_spec (terminated_ofString s)).2]
  intro hsent
  exact Derives.error_not_mem hsent (by decide) (List.mem_map.mpr ⟨t, ht, hk⟩)

end BlockSyntax
