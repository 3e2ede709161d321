import BlockSyntax.Proofs.ErrorOrder
import BlockSyntax.Proofs.PullCount

/-! # How deep the procedures of a check nest

The events of a check tell which procedures are running at each point (`callStack`): a
procedure runs from its `enter` to its `leave`, and a syntax error is recorded by the statement,
or the program procedure, that catches it, so every procedure above that one has stopped by then.

A block runs one statement deeper than the statement it is in only after its `{`, and a factor
one expression deeper than the expression it is in only after its `(`.  So at no point of a check
do more than five procedures run, and three more for each `{` and `(` (`check_depth`).

`FramedDone c s` and `FramedHalt c s` say how a procedure allowed `c` levels ends: at every point
of its run at most `c` procedures, and three more for each `{` and `(` ahead of `s`, run above
those running at `s` (`Within`); a normal end leaves those of `s` running, and a fault leaves
above them only procedures that do not catch it (`Above`), so that the statement or program
below records it.  The constant of each procedure is the most its body adds: `exp` 3 and `term`
2 above their factors, `assignment` 4, a `block` 4 before its `{`, a statement 5 and a list 6.
-/

namespace BlockSyntax

/-- The procedures that record the syntax errors raised inside them: a statement, and the
program for the errors outside every statement. -/
def Procedure.catches : Procedure → Bool
  | .stmt | .program => true
  | _ => false

/-- The procedures running after an event, innermost first, given those running before it. -/
@[simp] def Event.running (st : List Procedure) : Event → List Procedure
  | .enter p => p :: st
  | .leave _ => st.tail
  | .report _ => st.dropWhile fun p => !p.catches
  | .pull => st
  | .skip _ => st

/-- The procedures running after the events `es`, innermost first. -/
def callStack (es : List Event) : List Procedure :=
  es.foldl Event.running []

theorem callStack_concat (es : List Event) (e : Event) :
    callStack (es ++ [e]) = Event.running (callStack es) e := by
  simp [callStack]

/-- Only entering a procedure makes more procedures run. -/
theorem length_running_le (st : List Procedure) {e : Event} (he : ∀ p, e ≠ .enter p) :
    (Event.running st e).length ≤ st.length := by
  cases e with
  | enter p => exact absurd rfl (he p)
  | leave p => simp
  | report e => exact (List.dropWhile_suffix _).length_le
  | pull | skip t => exact Nat.le_refl _

/-- Recording an error drops the procedures above the nearest one that catches it. -/
theorem running_report {X F : List Procedure} {p : Procedure} (hX : ∀ x ∈ X, x.catches = false)
    (hp : p.catches = true) (e : SyntaxError) :
    Event.running (X ++ p :: F) (.report e) = p :: F := by
  induction X with
  | nil => simp [hp]
  | cons x X ih =>
    have hx : x.catches = false := hX x (List.mem_cons_self ..)
    have := ih fun y hy => hX y (List.mem_cons_of_mem _ hy)
    simp only [Event.running] at this ⊢
    simp [hx, this]

namespace Cursor

/-- The procedures running at `s`. -/
def running (s : Cursor) : List Procedure :=
  callStack s.log.toList

@[simp] theorem running_note (s : Cursor) (e : Event) :
    (s.note e).running = Event.running s.running e := by
  simp [running, note, callStack_concat]

theorem running_enter (s : Cursor) (p : Procedure) :
    (s.note (.enter p)).running = p :: s.running := by
  simp

theorem running_advance {s s' : Cursor} (h : s.advance = some s') : s'.running = s.running := by
  simp [running, log_advance h, callStack_concat]

/-- The `{` and `(` from the lookahead on. -/
def opens (s : Cursor) : Nat :=
  s.tokens.countP fun t => t.kind == .lbrace || t.kind == .lparen

/-- Moving past a `{` or a `(`. -/
theorem opens_advance_open {s s' : Cursor} (h : s.advance = some s')
    (hk : s.lookahead.kind = .lbrace ∨ s.lookahead.kind = .lparen) : s'.opens + 1 = s.opens := by
  have hne : s.lookahead.kind ≠ .eof := by rcases hk with hk | hk <;> rw [hk] <;> decide
  have hopen : (s.lookahead.kind == .lbrace || s.lookahead.kind == .lparen) = true := by
    rcases hk with hk | hk <;> rw [hk] <;> rfl
  simp [opens, tokens_of_advance h hne, hopen]

/-! ### Runs within a depth -/

/-- From `s` to `s'` the checker only added events and moved on through the tokens, and at no
point in between did more than `b` procedures run. -/
structure Within (b : Nat) (s s' : Cursor) : Prop where
  grows : s.log.toList <+: s'.log.toList
  ahead : s'.tokens <:+ s.tokens
  depth : ∀ L, s.log.toList <+: L → L <+: s'.log.toList → (callStack L).length ≤ b

variable {b : Nat} {s s₁ s₂ : Cursor}

theorem Within.refl (h : s.running.length ≤ b) : Within b s s := by
  refine ⟨List.prefix_refl _, List.suffix_refl _, fun L h₁ h₂ => ?_⟩
  rw [h₂.eq_of_length (Nat.le_antisymm h₂.length_le h₁.length_le)]
  exact h

theorem Within.mono {b' : Nat} (h : Within b s s₁) (hb : b ≤ b') : Within b' s s₁ :=
  ⟨h.grows, h.ahead, fun L h₁ h₂ => Nat.le_trans (h.depth L h₁ h₂) hb⟩

theorem Within.trans (h₁ : Within b s s₁) (h₂ : Within b s₁ s₂) : Within b s s₂ := by
  refine ⟨h₁.grows.trans h₂.grows, h₂.ahead.trans h₁.ahead, fun L hs hL => ?_⟩
  -- a point of the run is before `s₁` or after it
  rcases List.prefix_or_prefix_of_prefix hL h₂.grows with h | h
  · exact h₁.depth L hs h
  · exact h₂.depth L h hL

/-- The procedures running at the end of a run within `b`. -/
theorem Within.last (h : Within b s s₁) : s₁.running.length ≤ b :=
  h.depth _ h.grows (List.prefix_refl _)

theorem Within.opens_le (h : Within b s s₁) : s₁.opens ≤ s.opens :=
  h.ahead.sublist.countP_le

/-- One more event, after which at most `b` procedures run. -/
theorem Within.push {e : Event} (h : Within b s s₁) (hlog : s₂.log = s₁.log.push e)
    (htok : s₂.tokens <:+ s₁.tokens) (hb : s₂.running.length ≤ b) : Within b s s₂ := by
  refine h.trans ⟨by simp [hlog], htok, fun L hs hL => ?_⟩
  rw [hlog, Array.toList_push, List.prefix_concat_iff] at hL
  rcases hL with rfl | hL
  · rw [← Array.toList_push, ← hlog]
    exact hb
  · rw [← hs.eq_of_length (Nat.le_antisymm hs.length_le hL.length_le)]
    exact h.last

theorem Within.note (h : Within b s s₁) {e : Event} (hb : (s₁.note e).running.length ≤ b) :
    Within b s (s₁.note e) :=
  h.push rfl (List.suffix_refl _) hb

/-- Recording an event other than entering a procedure. -/
theorem Within.note_of_ne (h : Within b s s₁) {e : Event} (he : ∀ p, e ≠ .enter p) :
    Within b s (s₁.note e) :=
  h.note (by rw [running_note]; exact Nat.le_trans (length_running_le _ he) h.last)

theorem Within.advance (h : Within b s s₁) (ha : s₁.advance = some s₂) : Within b s s₂ :=
  h.push (log_advance ha) (advance_spec ha).2.1 (by rw [running_advance ha]; exact h.last)

/-! ### Procedures within their depth -/

/-- The procedures that may run during a procedure allowed `c` levels from `s`: those running
at `s`, `c` more, and three more for each `{` and `(` ahead. -/
def limit (c : Nat) (s : Cursor) : Nat :=
  s.running.length + c + 3 * s.opens

/-- The procedures running at `s'` are those of `F` and, above them, only some that catch no
error. -/
def Above (F : List Procedure) (s' : Cursor) : Prop :=
  ∃ X, s'.running = X ++ F ∧ ∀ p ∈ X, p.catches = false

/-- A procedure allowed `c` levels, started on `s`, ended normally on `s'`: within its levels,
with the procedures of `s` running again. -/
def FramedDone (c : Nat) (s s' : Cursor) : Prop :=
  Within (limit c s) s s' ∧ s'.running = s.running

/-- A procedure allowed `c` levels, started on `s`, halted on `s'`: within its levels, and on a
fault with only procedures that catch no error above those of `s`. -/
def FramedHalt (c : Nat) (s : Cursor) (h : Halt) (s' : Cursor) : Prop :=
  Within (limit c s) s s' ∧ ∀ e, h = .fault e → Above s.running s'

theorem Within.start (s : Cursor) (c : Nat) : Within (limit c s) s s :=
  Within.refl (by unfold limit; omega)

/-- A call on `s₁` whose procedures run right above those of `s`. -/
theorem limit_le_inner {c₁ c : Nat} {p : Procedure} (hw : Within b s s₁)
    (hr : s₁.running = p :: s.running) (hc : c₁ + 1 ≤ c) : limit c₁ s₁ ≤ limit c s := by
  have := hw.opens_le
  unfold limit
  rw [hr, List.length_cons]
  omega

/-- A call on `s₁` where the procedures of `s` run. -/
theorem limit_le_same {c₁ c : Nat} (hw : Within b s s₁) (hr : s₁.running = s.running)
    (hc : c₁ ≤ c) : limit c₁ s₁ ≤ limit c s := by
  have := hw.opens_le
  unfold limit
  rw [hr]
  omega

/-- A call on `s₁` right after a `{` or a `(`: three levels more. -/
theorem limit_le_open {c₁ c : Nat} {p : Procedure} (hr : s₁.running = p :: s.running)
    (ho : s₁.opens + 1 = s.opens) (hc : c₁ + 1 ≤ c + 3) : limit c₁ s₁ ≤ limit c s := by
  unfold limit
  rw [hr, List.length_cons]
  omega

theorem Above.of_eq {F : List Procedure} (h : s.running = F) : Above F s :=
  ⟨[], h, fun _ h => absurd h List.not_mem_nil⟩

theorem Above.pop {F : List Procedure} {p : Procedure} (h : Above (p :: F) s)
    (hp : p.catches = false) : Above F s := by
  obtain ⟨X, hX, hc⟩ := h
  refine ⟨X ++ [p], by simp [hX], fun x hx => ?_⟩
  rcases List.mem_append.mp hx with hx | hx
  · exact hc x hx
  · rw [List.mem_singleton.mp hx]
    exact hp

/-- The procedure that records a fault is the innermost that catches it. -/
theorem Above.running_report {F : List Procedure} {p : Procedure} (h : Above (p :: F) s)
    (hp : p.catches = true) (e : SyntaxError) : (s.note (.report e)).running = p :: F := by
  obtain ⟨X, hX, hc⟩ := h
  rw [running_note, hX]
  exact BlockSyntax.running_report hc hp e

/-- Recording a fault that reaches the procedure `p`, which catches it, with `F` below. -/
theorem Within.report {F : List Procedure} {p : Procedure} (h : Within b s s₁)
    (ha : Above (p :: F) s₁) (hp : p.catches = true) (hb : F.length + 1 ≤ b) (e : SyntaxError) :
    Within b s (s₁.note (.report e)) :=
  h.note (by rw [ha.running_report hp e, List.length_cons]; exact hb)

/-- A call allowed `c₁` levels from `s₁`, in a run within `b` from `s` whose bound covers the
call's, where the procedures `F` run: how it ends, seen from `s`. -/
theorem framed_then {n c₁ : Nat} {F : List Procedure} {r : Reply n} {D : Cursor → Prop}
    {H : Halt → Cursor → Prop}
    (hr : r.Holds (FramedDone c₁ s₁) (FramedHalt c₁ s₁)) (h₀ : Within b s s₁)
    (hF : s₁.running = F) (hle : limit c₁ s₁ ≤ b)
    (hd : ∀ s₂ : Cursor, Within b s s₂ → s₂.running = F → s₂.size ≤ n → D s₂)
    (hh : ∀ h s₂, Within b s s₂ → (∀ e, h = .fault e → Above F s₂) → H h s₂) :
    r.Holds D H :=
  (hr.both r.holds_size).imp
    (fun s₂ h₂ => hd s₂ (h₀.trans (h₂.1.1.mono hle)) (h₂.1.2.trans hF) h₂.2)
    fun h s₂ h₂ => hh h s₂ (h₀.trans (h₂.1.1.mono hle)) (hF ▸ h₂.1.2)

theorem framedDone_start (s : Cursor) (c : Nat) : FramedDone c s s :=
  ⟨Within.start s c, rfl⟩

theorem framedHalt_start (s : Cursor) (c : Nat) (h : Halt) : FramedHalt c s h s :=
  ⟨Within.start s c, fun _ _ => Above.of_eq rfl⟩

/-- Entering a procedure allowed at least one level. -/
theorem within_enter (s : Cursor) (p : Procedure) {c : Nat} (hc : 1 ≤ c) :
    Within (limit c s) s (s.note (.enter p)) :=
  (Within.start s c).note (by rw [running_enter, List.length_cons]; unfold limit; omega)

/-- Halting right after entering a procedure that catches no error. -/
theorem framedHalt_enter (s : Cursor) {p : Procedure} (hp : p.catches = false) {c : Nat}
    (hc : 1 ≤ c) (h : Halt) : FramedHalt c s h (s.note (.enter p)) :=
  ⟨within_enter s p hc, fun _ _ => (Above.of_eq (running_enter s p)).pop hp⟩

/-- Leaving a procedure that entered on `s` and ended its body on `s₂`. -/
theorem framedDone_leave {c : Nat} {p : Procedure} (hw : Within (limit c s) s s₂)
    (hr : s₂.running = p :: s.running) : FramedDone c s (s₂.note (.leave p)) :=
  ⟨hw.note_of_ne (by simp), by simp [hr]⟩

/-- A halt inside a procedure that entered on `s` and catches no error. -/
theorem framedHalt_pop {c : Nat} {p : Procedure} {h : Halt} (hp : p.catches = false)
    (hw : Within (limit c s) s s₂) (hf : ∀ e, h = .fault e → Above (p :: s.running) s₂) :
    FramedHalt c s h s₂ :=
  ⟨hw, fun e he => (hf e he).pop hp⟩

/-- Requiring a lookahead of a kind: no procedure enters. -/
theorem consume_framed (s : Cursor) (k : Kind) :
    (s.consume k).Holds (FramedDone 0 s) (FramedHalt 0 s) :=
  holds_consume (fun _ _ ha => ⟨(Within.start s 0).advance ha, running_advance ha⟩)
    (fun _ => framedHalt_start s 0 _) fun _ => framedHalt_start s 0 _

/-- A procedure that enters as `p`, runs two calls, the first allowed `c₁` levels and the second
`c₂`, and leaves: it keeps to one level more than either. -/
theorem framed_seq_leave {c c₁ c₂ : Nat} {p : Procedure} {f g : (s : Cursor) → Reply s.size}
    (hp : p.catches = false)
    (hf : (f (s.note (.enter p))).Holds (FramedDone c₁ (s.note (.enter p)))
      (FramedHalt c₁ (s.note (.enter p))))
    (hg : ∀ s₁ : Cursor, s₁.size ≤ s.size → (g s₁).Holds (FramedDone c₂ s₁) (FramedHalt c₂ s₁))
    (h₁ : c₁ + 1 ≤ c) (h₂ : c₂ + 1 ≤ c) :
    (f (s.note (.enter p))).Holds
      (fun s₁ => (g s₁).Holds (fun s₂ => FramedDone c s (s₂.note (.leave p))) (FramedHalt c s))
      (FramedHalt c s) := by
  have h₀ := within_enter s p (Nat.le_trans (Nat.le_add_left 1 c₁) h₁)
  have hF := running_enter s p
  exact framed_then hf h₀ hF (limit_le_inner h₀ hF h₁)
    (fun s₁ hw₁ hr₁ hle => framed_then (hg s₁ hle) hw₁ hr₁ (limit_le_inner hw₁ hr₁ h₂)
      (fun _ hw₂ hr₂ _ => framedDone_leave hw₂ hr₂) fun _ _ => framedHalt_pop hp)
    fun _ _ => framedHalt_pop hp

/-- A repetition on `s` that moves past its separator to `s₁`, runs a call allowed `c` levels and
repeats: it keeps to the same `c` levels. -/
theorem framed_repeat {c : Nat} {f g : (s : Cursor) → Reply s.size} (ha : s.advance = some s₁)
    (hf : (f s₁).Holds (FramedDone c s₁) (FramedHalt c s₁))
    (hg : ∀ s₂ : Cursor, s₂.size ≤ s₁.size → (g s₂).Holds (FramedDone c s₂) (FramedHalt c s₂)) :
    (f s₁).Holds (fun s₂ => (g s₂).Holds (FramedDone c s) (FramedHalt c s)) (FramedHalt c s) := by
  have hw₁ := (Within.start s c).advance ha
  have hr₁ := running_advance ha
  exact framed_then hf hw₁ hr₁ (limit_le_same hw₁ hr₁ (Nat.le_refl _))
    (fun s₂ hw₂ hr₂ hle => framed_then (hg s₂ hle) hw₂ hr₂ (limit_le_same hw₂ hr₂ (Nat.le_refl _))
      (fun _ hw₃ hr₃ _ => ⟨hw₃, hr₃⟩) fun _ _ hw₃ hf => ⟨hw₃, hf⟩)
    fun _ _ hw₂ hf => ⟨hw₂, hf⟩

/-! ### Expressions -/

theorem exp_framed (s : Cursor)
    (ht : ∀ s' : Cursor, s'.size ≤ s.size → s'.term.Holds (FramedDone 2 s') (FramedHalt 2 s'))
    (hm : ∀ s' : Cursor, s'.size ≤ s.size →
      s'.moreTerms.Holds (FramedDone 2 s') (FramedHalt 2 s')) :
    s.exp.Holds (FramedDone 3 s) (FramedHalt 3 s) :=
  holds_exp (framed_seq_leave rfl (ht _ (Nat.le_refl _)) hm (by decide) (by decide))

theorem moreTerms_framed (s : Cursor)
    (ht : ∀ s' : Cursor, s'.size < s.size → s'.term.Holds (FramedDone 2 s') (FramedHalt 2 s'))
    (hm : ∀ s' : Cursor, s'.size < s.size →
      s'.moreTerms.Holds (FramedDone 2 s') (FramedHalt 2 s')) :
    s.moreTerms.Holds (FramedDone 2 s) (FramedHalt 2 s) := by
  refine holds_moreTerms (fun hk s₁ ha => ?_) (fun _ _ => framedHalt_start s 2 _)
    fun _ => framedDone_start s 2
  have hlt := size_advance_lt ha (Kind.ne_eof_of_isAddOp hk)
  exact framed_repeat ha (ht s₁ hlt) fun s₂ h₂ => hm s₂ (Nat.lt_of_le_of_lt h₂ hlt)

theorem term_framed (s : Cursor)
    (hf : ∀ s' : Cursor, s'.size ≤ s.size →
      s'.factor.Holds (FramedDone 1 s') (FramedHalt 1 s'))
    (hm : ∀ s' : Cursor, s'.size ≤ s.size →
      s'.moreFactors.Holds (FramedDone 1 s') (FramedHalt 1 s')) :
    s.term.Holds (FramedDone 2 s) (FramedHalt 2 s) :=
  holds_term (framed_seq_leave rfl (hf _ (Nat.le_refl _)) hm (by decide) (by decide))

theorem moreFactors_framed (s : Cursor)
    (hf : ∀ s' : Cursor, s'.size < s.size →
      s'.factor.Holds (FramedDone 1 s') (FramedHalt 1 s'))
    (hm : ∀ s' : Cursor, s'.size < s.size →
      s'.moreFactors.Holds (FramedDone 1 s') (FramedHalt 1 s')) :
    s.moreFactors.Holds (FramedDone 1 s) (FramedHalt 1 s) := by
  refine holds_moreFactors (fun hk s₁ ha => ?_) (fun _ _ => framedHalt_start s 1 _)
    fun _ => framedDone_start s 1
  have hlt := size_advance_lt ha (Kind.ne_eof_of_isMulOp hk)
  exact framed_repeat ha (hf s₁ hlt) fun s₂ h₂ => hm s₂ (Nat.lt_of_le_of_lt h₂ hlt)

theorem factor_framed (s : Cursor)
    (he : ∀ s' : Cursor, s'.size < s.size → s'.exp.Holds (FramedDone 3 s') (FramedHalt 3 s')) :
    s.factor.Holds (FramedDone 1 s) (FramedHalt 1 s) := by
  have h₀ := within_enter s .factor (c := 1) (Nat.le_refl _)
  have hF := running_enter s .factor
  refine holds_factor
    (fun _ _ ha => framedDone_leave (h₀.advance ha) ((running_advance ha).trans hF))
    (fun hk s₁ ha => ?_) (fun _ => framedHalt_enter s rfl (Nat.le_refl _) _)
    fun _ _ => framedHalt_enter s rfl (Nat.le_refl _) _
  -- after the `(`, an expression runs with three levels more, and then the `)` is required
  have hne : (s.note (.enter .factor)).lookahead.kind ≠ .eof := by rw [lookahead_note, hk]; decide
  have hw₁ := h₀.advance ha
  have hr₁ := (running_advance ha).trans hF
  have hlt := size_advance_lt ha hne
  have ho₁ : s₁.opens + 1 = (s.note (.enter .factor)).opens := opens_advance_open ha (.inr hk)
  exact framed_then (he s₁ hlt) hw₁ hr₁ (limit_le_open hr₁ ho₁ (by decide))
    (fun s₂ hw₂ hr₂ _ => framed_then (consume_framed s₂ .rparen) hw₂ hr₂
      (limit_le_inner hw₂ hr₂ (Nat.le_refl _)) (fun _ hw₃ hr₃ _ => framedDone_leave hw₃ hr₃)
      fun _ _ => framedHalt_pop rfl)
    fun _ _ => framedHalt_pop rfl

/-- **The procedures of expressions keep to their levels**: at every point of their run,
`exp` at most 3 procedures and `term` 2, the repetitions and `factor` 1 more than run where they
start, and three more for each `{` and `(` ahead. -/
theorem expression_framed :
    (∀ s : Cursor, s.exp.Holds (FramedDone 3 s) (FramedHalt 3 s)) ∧
    (∀ s : Cursor, s.moreTerms.Holds (FramedDone 2 s) (FramedHalt 2 s)) ∧
    (∀ s : Cursor, s.term.Holds (FramedDone 2 s) (FramedHalt 2 s)) ∧
    (∀ s : Cursor, s.moreFactors.Holds (FramedDone 1 s) (FramedHalt 1 s)) ∧
    (∀ s : Cursor, s.factor.Holds (FramedDone 1 s) (FramedHalt 1 s)) :=
  expression_induction _ _ _ _ _ exp_framed moreTerms_framed term_framed moreFactors_framed
    factor_framed

/-! ### Statements -/

theorem declaration_framed (s : Cursor) :
    s.declaration.Holds (FramedDone 1 s) (FramedHalt 1 s) := by
  have h₀ := within_enter s .declaration (c := 1) (Nat.le_refl _)
  have hF := running_enter s .declaration
  exact holds_declaration (framed_then (consume_framed _ .type) h₀ hF
    (limit_le_inner h₀ hF (Nat.le_refl _))
    (fun s₁ hw₁ hr₁ _ => framed_then (consume_framed s₁ .ident) hw₁ hr₁
      (limit_le_inner hw₁ hr₁ (Nat.le_refl _)) (fun _ hw₂ hr₂ _ => framedDone_leave hw₂ hr₂)
      fun _ _ => framedHalt_pop rfl)
    fun _ _ => framedHalt_pop rfl)

theorem assignment_framed (s : Cursor) : s.assignment.Holds (FramedDone 4 s) (FramedHalt 4 s) := by
  have h₀ := within_enter s .assignment (c := 4) (by decide)
  have hF := running_enter s .assignment
  refine holds_assignment (fun _ s₁ ha => ?_) (fun _ _ => framedHalt_enter s rfl (by decide) _)
    fun _ => framedHalt_enter s rfl (by decide) _
  have hw₁ := h₀.advance ha
  have hr₁ := (running_advance ha).trans hF
  exact framed_then (consume_framed s₁ .assign) hw₁ hr₁ (limit_le_inner hw₁ hr₁ (by decide))
    (fun s₂ hw₂ hr₂ _ => framed_then (expression_framed.1 s₂) hw₂ hr₂
      (limit_le_inner hw₂ hr₂ (by decide)) (fun _ hw₃ hr₃ _ => framedDone_leave hw₃ hr₃)
      fun _ _ => framedHalt_pop rfl)
    fun _ _ => framedHalt_pop rfl

/-- Skipping to the end of a statement enters no procedure, and halts only when the tokens run
out. -/
theorem skipToEnd_framed (s : Cursor) :
    s.skipToEnd.Holds (FramedDone 0 s) fun h s' => h = .unreadable ∧ Within (limit 0 s) s s' := by
  -- on the size of the cursor, which each skipped token lowers
  induction s using (measure Cursor.size).wf.induction with
  | h s ih =>
    have h₀ : Within (limit 0 s) s (s.note (.skip s.lookahead)) :=
      (Within.start s 0).note_of_ne (by simp)
    refine holds_skipToEnd (fun _ => framedDone_start s 0) (fun hk s₁ ha => ?_)
      fun _ _ => ⟨rfl, h₀⟩
    have hlt := size_advance_lt ha (Kind.ne_eof_of_endsStatement_eq_false hk)
    have hw₁ := h₀.advance ha
    have hr₁ : s₁.running = s.running := by rw [running_advance ha, running_note]; rfl
    have hle := limit_le_same hw₁ hr₁ (Nat.le_refl 0)
    exact (ih s₁ hlt).imp (fun _ h₂ => ⟨hw₁.trans (h₂.1.mono hle), h₂.2.trans hr₁⟩)
      fun _ _ h₂ => ⟨h₂.1, hw₁.trans (h₂.2.mono hle)⟩

theorem block_framed (s : Cursor)
    (hl : ∀ s' : Cursor, s'.size < s.size →
      s'.stmtList.Holds (FramedDone 6 s') (FramedHalt 6 s')) :
    s.block.Holds (FramedDone 4 s) (FramedHalt 4 s) := by
  have h₀ := within_enter s .block (c := 4) (by decide)
  have hF := running_enter s .block
  refine holds_block (fun hk s₁ ha => ?_) (fun _ _ => framedHalt_enter s rfl (by decide) _)
    fun _ => framedHalt_enter s rfl (by decide) _
  -- after the `{`, a statement list runs with three levels more, and then the `}` is required
  have hne : (s.note (.enter .block)).lookahead.kind ≠ .eof := by rw [lookahead_note, hk]; decide
  have hw₁ := h₀.advance ha
  have hr₁ := (running_advance ha).trans hF
  have hlt := size_advance_lt ha hne
  have ho₁ : s₁.opens + 1 = (s.note (.enter .block)).opens := opens_advance_open ha (.inl hk)
  exact framed_then (hl s₁ hlt) hw₁ hr₁ (limit_le_open hr₁ ho₁ (by decide))
    (fun s₂ hw₂ hr₂ _ => framed_then (consume_framed s₂ .rbrace) hw₂ hr₂
      (limit_le_inner hw₂ hr₂ (by decide)) (fun _ hw₃ hr₃ _ => framedDone_leave hw₃ hr₃)
      fun _ _ => framedHalt_pop rfl)
    fun _ _ => framedHalt_pop rfl

theorem stmtList_framed (s : Cursor)
    (hs : ∀ s' : Cursor, s'.size ≤ s.size → s'.stmt.Holds (FramedDone 5 s') (FramedHalt 5 s'))
    (hm : ∀ s' : Cursor, s'.size ≤ s.size →
      s'.moreStmts.Holds (FramedDone 5 s') (FramedHalt 5 s')) :
    s.stmtList.Holds (FramedDone 6 s) (FramedHalt 6 s) :=
  holds_stmtList (framed_seq_leave rfl (hs _ (Nat.le_refl _)) hm (by decide) (by decide))

theorem moreStmts_framed (s : Cursor)
    (hs : ∀ s' : Cursor, s'.size < s.size → s'.stmt.Holds (FramedDone 5 s') (FramedHalt 5 s'))
    (hm : ∀ s' : Cursor, s'.size < s.size →
      s'.moreStmts.Holds (FramedDone 5 s') (FramedHalt 5 s')) :
    s.moreStmts.Holds (FramedDone 5 s) (FramedHalt 5 s) := by
  refine holds_moreStmts (fun hk s₁ ha => ?_) (fun _ _ => framedHalt_start s 5 _)
    fun _ => framedDone_start s 5
  have hlt := size_advance_lt ha (by rw [hk]; decide)
  exact framed_repeat ha (hs s₁ hlt) fun s₂ h₂ => hm s₂ (Nat.lt_of_le_of_lt h₂ hlt)

theorem stmt_framed (s : Cursor)
    (hb : ∀ s' : Cursor, s'.size ≤ s.size →
      s'.block.Holds (FramedDone 4 s') (FramedHalt 4 s')) :
    s.stmt.Holds (FramedDone 5 s) (FramedHalt 5 s) := by
  have h₀ := within_enter s .stmt (c := 5) (by decide)
  have hF := running_enter s .stmt
  -- an error reaches the statement with only procedures that catch none above it; recording
  -- it leaves the statement innermost, and skipping to the statement's end enters nothing
  have hrecover : ∀ s₁ e, Within (limit 5 s) s s₁ → Above (.stmt :: s.running) s₁ →
      ((s₁.note (.report e)).skipToEnd).Holds
        (fun s₂ => FramedDone 5 s (s₂.note (.leave .stmt))) (FramedHalt 5 s) := by
    intro s₁ e hw ha
    have hr₂ := ha.running_report rfl e
    have hw₂ := hw.report ha rfl (by unfold limit; omega) e
    have hle := limit_le_inner hw₂ hr₂ (by decide : 0 + 1 ≤ 5)
    refine (skipToEnd_framed _).imp
      (fun _ h₃ => framedDone_leave (hw₂.trans (h₃.1.mono hle)) (h₃.2.trans hr₂))
      fun _ _ h₃ => ⟨hw₂.trans (h₃.2.mono hle), fun _ he => ?_⟩
    rw [h₃.1] at he
    cases he
  -- the body runs right above the statement, and lets a fault out only to the statement
  have hbody : ∀ {c : Nat} {r : Reply (s.note (.enter .stmt)).size}, c + 1 ≤ 5 →
      r.Holds (FramedDone c (s.note (.enter .stmt))) (FramedHalt c (s.note (.enter .stmt))) →
      r.Holds (fun s₁ => Within (limit 5 s) s s₁ ∧ s₁.running = .stmt :: s.running)
        fun h s₁ => Within (limit 5 s) s s₁ ∧ ∀ e, h = .fault e → Above (.stmt :: s.running) s₁ :=
    fun hc hr => framed_then hr h₀ hF (limit_le_inner h₀ hF hc) (fun _ hw hr _ => ⟨hw, hr⟩)
      fun _ _ hw hf => ⟨hw, hf⟩
  exact holds_stmt (fun _ => hbody (by decide) (declaration_framed _))
    (fun _ => hbody (by decide) (assignment_framed _))
    (fun _ => hbody (by decide) (hb _ (Nat.le_refl _)))
    (fun _ _ _ => hrecover _ _ h₀ (Above.of_eq hF)) (fun _ h₁ _ => framedDone_leave h₁.1 h₁.2)
    (fun s₁ h₁ _ => hrecover s₁ _ h₁.1 (Above.of_eq h₁.2))
    (fun _ h₁ => ⟨h₁.1, fun _ he => by cases he⟩) fun e s₁ h₁ => hrecover s₁ e h₁.1 (h₁.2 e rfl)

/-- **The procedures of statements keep to their levels**: at every point of their run, a
statement list at most 6 procedures, a statement and its repetition 5 and a block 4 more than
run where they start, and three more for each `{` and `(` ahead. -/
theorem statement_framed :
    (∀ s : Cursor, s.block.Holds (FramedDone 4 s) (FramedHalt 4 s)) ∧
    (∀ s : Cursor, s.stmtList.Holds (FramedDone 6 s) (FramedHalt 6 s)) ∧
    (∀ s : Cursor, s.moreStmts.Holds (FramedDone 5 s) (FramedHalt 5 s)) ∧
    (∀ s : Cursor, s.stmt.Holds (FramedDone 5 s) (FramedHalt 5 s)) :=
  statement_induction _ _ _ _ block_framed stmtList_framed moreStmts_framed stmt_framed

/-! ### Whole checks -/

/-- The events of the program procedure are those of a cursor satisfying `P` when reading its
block and the end token ends normally where leaving satisfies `P`, halts on a failed read where
`P` holds, or halts on a fault where recording it and leaving does. -/
theorem program_log (s₀ : Cursor) {P : Cursor → Prop}
    (hrun : ((s₀.note (.enter .program)).block.bind fun s₁ h₁ => (s₁.consume .eof).widen h₁).Holds
      (fun s₁ => P (s₁.note (.leave .program)))
      fun h s₁ => (h = .unreadable → P s₁) ∧
        ∀ e, h = .fault e → P ((s₁.note (.report e)).note (.leave .program))) :
    ∃ g : Cursor, s₀.program.log = g.log ∧ P g := by
  unfold Cursor.program
  dsimp only
  generalize ((s₀.note (.enter .program)).block.bind fun s₁ h₁ => (s₁.consume .eof).widen h₁) = r
    at hrun ⊢
  cases r with
  | done s₁ h₁ => exact ⟨_, rfl, hrun⟩
  | halt h s₁ h₁ =>
    cases h with
    | fault e => exact ⟨_, rfl, hrun.2 e rfl⟩
    | unreadable => exact ⟨s₁, rfl, hrun.1 rfl⟩

/-- The program procedure runs within five levels above those running where it starts, and three
more for each `{` and `(` ahead. -/
theorem program_within (s₀ : Cursor) : ∃ g : Cursor, s₀.program.log = g.log ∧
    Within (limit 5 s₀) s₀ g := by
  have h₀ := within_enter s₀ .program (c := 5) (by decide)
  have hF := running_enter s₀ .program
  -- a fault reaches the program with only procedures that catch none above it
  have hcatch : ∀ (h : Halt) (s₁ : Cursor), Within (limit 5 s₀) s₀ s₁ →
      (∀ e, h = .fault e → Above (.program :: s₀.running) s₁) →
      (h = .unreadable → Within (limit 5 s₀) s₀ s₁) ∧
        ∀ e, h = .fault e →
          Within (limit 5 s₀) s₀ ((s₁.note (.report e)).note (.leave .program)) :=
    fun _ s₁ hw hf => ⟨fun _ => hw, fun e he =>
      (hw.report (hf e he) rfl (by unfold limit; omega) e).note_of_ne (by simp)⟩
  exact program_log s₀ ((framed_then (statement_framed.1 _) h₀ hF
    (limit_le_inner h₀ hF (by decide)) (fun s₁ hw₁ hr₁ _ => framed_then (consume_framed s₁ .eof) hw₁ hr₁
      (limit_le_inner hw₁ hr₁ (by decide)) (fun _ hw₂ _ _ => hw₂.note_of_ne (by simp)) hcatch)
    hcatch).bind fun _ _ hd => (Reply.holds_widen _ _).mpr hd)

end Cursor

/-- **The depth of a check.**  At no point of the check of any tokens do more than five procedures
run, and three more for each `{` and `(` among the tokens. -/
theorem check_depth (toks : List Token) (L : List Event) (hL : L <+: (check toks).log.toList) :
    (callStack L).length ≤ 5 + 3 * toks.countP fun t => t.kind == .lbrace || t.kind == .lparen := by
  cases toks with
  | nil =>
    rw [List.prefix_nil.mp hL]
    exact Nat.zero_le _
  | cons t rest =>
    obtain ⟨g, hg, hw⟩ := Cursor.program_within ⟨t, rest, #[.pull]⟩
    -- before the program starts only the first token was pulled, and nothing runs
    have hstart : ∀ L, L <+: [Event.pull] → callStack L = [] := by
      intro L h
      rcases List.prefix_cons_iff.mp h with rfl | ⟨L', rfl, hL'⟩
      · rfl
      · rw [List.prefix_nil.mp hL']
        rfl
    have hlimit : Cursor.limit 5 ⟨t, rest, #[.pull]⟩ =
        5 + 3 * (t :: rest).countP fun t => t.kind == .lbrace || t.kind == .lparen := rfl
    change L <+: (Cursor.program ⟨t, rest, #[.pull]⟩).log.toList at hL
    rw [hg] at hL
    rcases List.prefix_or_prefix_of_prefix hL hw.grows with h | h
    · rw [hstart L h]
      exact Nat.zero_le _
    · exact hlimit ▸ hw.depth L h hL

/-- **A check reads each token once, and nests no deeper than its brackets.**  A text of `n`
characters scans to at most `n + 1` tokens.  Their check finishes, on a cursor `g` after moving
past tokens `q` that hold no end token: it pulled the first token and one token for each of `q`,
or, where its block ended at the end token, once more the end token, right after the block left
and before the program leaves; so at most one pull more than there are tokens.  And at no point
of the check do more than five procedures run for each `{` and `(` and once more. -/
theorem text_check_bounded (s : String) :
    (Reader.ofFeed (Feed.ofString s)).tape.tokens.length ≤ s.length + 1 ∧
    ∃ g, (Report.ofFeed (Feed.ofString s)).verdict = .finished g ∧
      g.pulls ≤ (Reader.ofFeed (Feed.ofString s)).tape.tokens.length + 1 ∧
      (∃ q, (Reader.ofFeed (Feed.ofString s)).tape.tokens = q ++ g.tokens ∧
        (∀ t ∈ q, t.kind ≠ .eof) ∧
        (g.pulls = q.length + 1 ∨
          (g.pulls = q.length + 2 ∧ g.lookahead.kind = .eof ∧
            ∃ L, g.log.toList = L ++ [.leave .block, .pull, .leave .program]))) ∧
      ∀ L, L <+: g.log.toList → (callStack L).length ≤
        5 * (1 + (Reader.ofFeed (Feed.ofString s)).tape.tokens.countP
          fun t => t.kind == .lbrace || t.kind == .lparen) := by
  have ht := terminated_ofString s
  obtain ⟨g, hg, q, hq, hpulls⟩ := check_pulls ht
  have hno := ht.not_eof_of_append hq (List.cons_ne_nil _ _)
  -- the end token is among the tokens, after those of `q`, so `q` is shorter than the tokens
  have hlen : q.length + 1 ≤ (Reader.ofFeed (Feed.ofString s)).tape.tokens.length := by
    rw [hq, List.length_append, Cursor.tokens, List.length_cons]
    omega
  refine ⟨tokens_length_le s, g, hg, ?_, ⟨q, hq, hno, hpulls⟩, fun L hL => ?_⟩
  · rcases hpulls with h | ⟨h, -⟩ <;> omega
  · have hd := check_depth _ L (by rw [hg]; exact hL)
    omega

end BlockSyntax
