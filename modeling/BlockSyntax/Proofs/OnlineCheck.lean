import BlockSyntax.Proofs.StatementRules

/-! # The checker reads its tokens online

The procedures of the checker look at the tokens only by moving past the lookahead.  So a check of
the first tokens `p` of an input, none of them the end token, goes exactly as the check of the
whole input until it needs a token that `p` lacks; there it stops for want of it, with the events
of the whole check before that pull (`check_online`).

The proof runs the two checks side by side.  `Short k g b` relates a cursor `b` of the check of
`p` to the cursor `g` of the whole check at the same point: the same lookahead and events, and a
prefix of the tokens ahead.  `Trails k` relates how a procedure ends from both: the same way, on
cursors again so related, or the short run ran out of tokens where the whole one pulled one more
(`Pulled`).  After that point the whole check only adds to its events (`Grows`), so the short
check's events stay a prefix of them.  `Online g f` says both of the procedure `f` from `g`; the
mutual inductions of the procedures prove it for all of them, with one step lemma per procedure.
-/

namespace BlockSyntax

namespace Cursor

/-- The tokens pulled so far. -/
def pulls (s : Cursor) : Nat :=
  s.log.toList.countP (· == .pull)

theorem pulls_note (s : Cursor) {e : Event} (he : e ≠ .pull) : (s.note e).pulls = s.pulls := by
  simp [pulls, note, he]

/-- `s'` has recorded the events of `s`, and maybe more. -/
def Grows (s s' : Cursor) : Prop :=
  s.log.toList <+: s'.log.toList

theorem Grows.refl (s : Cursor) : Grows s s :=
  List.prefix_refl _

theorem Grows.trans {s₁ s₂ s₃ : Cursor} (h₁ : Grows s₁ s₂) (h₂ : Grows s₂ s₃) : Grows s₁ s₃ :=
  List.IsPrefix.trans h₁ h₂

theorem Grows.note {s s' : Cursor} (h : Grows s s') (e : Event) : Grows s (s'.note e) :=
  h.trans (by simp [Grows, Cursor.note])

theorem grows_advance {s s' : Cursor} (h : s.advance = some s') : Grows s s' := by
  unfold advance at h
  split at h
  · cases h
    simp [Grows]
  · split at h
    · cases h
      simp [Grows]
    · cases h

/-- The cursor `b` is `g` short of tokens at the end of the input: the same lookahead and events,
a prefix of the tokens ahead, none of them the end token.  `k` counts the pulls and the tokens
ahead of `b` together, which moving on keeps. -/
structure Short (k : Nat) (g b : Cursor) : Prop where
  lookahead : b.lookahead = g.lookahead
  log : b.log = g.log
  ahead : b.ahead <+: g.ahead
  no_eof : ∀ t ∈ b.tokens, t.kind ≠ .eof
  count : b.pulls + b.ahead.length = k

/-- The short run ran out of tokens at `b`, all `k` of them pulled, where the whole run, now at
`g`, pulled one more. -/
def Pulled (k : Nat) (b g : Cursor) : Prop :=
  b.pulls = k ∧ b.log.toList ++ [.pull] <+: g.log.toList

variable {k : Nat} {g b : Cursor}

theorem Pulled.grow {g' : Cursor} (h : Pulled k b g) (hg : Grows g g') : Pulled k b g' :=
  ⟨h.1, h.2.trans hg⟩

theorem Short.note (h : Short k g b) (e : Event) (he : e ≠ .pull) :
    Short k (g.note e) (b.note e) where
  lookahead := h.lookahead
  log := by simp [Cursor.note, h.log]
  ahead := h.ahead
  no_eof := h.no_eof
  count := by rw [pulls_note _ he]; exact h.count

/-- Moving past the lookahead of the short cursor: the whole one moves to the same token. -/
theorem Short.advance_some {b₁ : Cursor} (h : Short k g b) (hb : b.advance = some b₁) :
    ∃ g₁, g.advance = some g₁ ∧ Short k g₁ b₁ := by
  have hne : b.lookahead.kind ≠ .eof := h.no_eof _ (List.mem_cons_self ..)
  obtain ⟨u, hu⟩ := h.ahead
  cases hbs : b.ahead with
  | nil => simp [Cursor.advance, hbs, hne] at hb
  | cons t rest =>
    rw [hbs] at hu
    have hg : g.ahead = t :: (rest ++ u) := by rw [← hu]; rfl
    simp only [Cursor.advance, hbs, Option.some.injEq] at hb
    subst hb
    refine ⟨⟨t, rest ++ u, g.log.push .pull⟩, by simp [Cursor.advance, hg], rfl, by simp [h.log],
      List.prefix_append _ _, ?_, ?_⟩
    · intro x hx
      exact h.no_eof x (by simp only [tokens, hbs, List.mem_cons] at hx ⊢; exact .inr hx)
    · have := h.count
      simp only [hbs, List.length_cons] at this
      simp [pulls] at this ⊢
      omega

/-- The short cursor runs out of tokens: the whole one does too, or pulls one more. -/
theorem Short.advance_none (h : Short k g b) (hb : b.advance = none) :
    g.advance = none ∨ ∃ g₁, g.advance = some g₁ ∧ Pulled k b g₁ := by
  have hne : b.lookahead.kind ≠ .eof := h.no_eof _ (List.mem_cons_self ..)
  have hbs : b.ahead = [] := by
    cases hbs : b.ahead with
    | nil => rfl
    | cons t rest => simp [Cursor.advance, hbs] at hb
  cases hg : g.ahead with
  | nil =>
    left
    have hne' : g.lookahead.kind ≠ .eof := h.lookahead ▸ hne
    simp [Cursor.advance, hg, hne']
  | cons t rest =>
    refine .inr ⟨⟨t, rest, g.log.push .pull⟩, by simp [Cursor.advance, hg], ?_, ?_⟩
    · have := h.count
      rw [hbs, List.length_nil, Nat.add_zero] at this
      exact this
    · simp [h.log]

end Cursor

namespace Reply

/-- The cursor a reply ends on. -/
def last {n : Nat} : Reply n → Cursor
  | done s _ => s
  | halt _ s _ => s

@[simp] theorem last_widen {n m : Nat} (h : n ≤ m) (r : Reply n) : (r.widen h).last = r.last := by
  cases r <;> rfl

end Reply

namespace Cursor

/-- How a procedure ends from a short cursor against how it ends from the whole one: the same
way, on cursors again short of each other, or the short run ran out of tokens where the whole
run pulled one more. -/
def Trails (k : Nat) {n m : Nat} : Reply n → Reply m → Prop
  | .done g _, .done b _ => Short k g b
  | .halt e g _, .halt e' b _ => (e' = e ∧ Short k g b) ∨ (e' = .unreadable ∧ Pulled k b g)
  | .done g _, .halt e' b _ => e' = .unreadable ∧ Pulled k b g
  | .halt _ _ _, .done _ _ => False

variable {k n m : Nat} {g b : Cursor}

@[simp] theorem trails_widen_left {n' : Nat} (h : n ≤ n') (rg : Reply n) (rb : Reply m) :
    Trails k (rg.widen h) rb ↔ Trails k rg rb := by
  cases rg <;> cases rb <;> rfl

@[simp] theorem trails_widen_right {m' : Nat} (h : m ≤ m') (rg : Reply n) (rb : Reply m) :
    Trails k rg (rb.widen h) ↔ Trails k rg rb := by
  cases rg <;> cases rb <;> rfl

/-- A short run that ran out where the whole run, now ended, had pulled one more. -/
theorem Trails.of_pulled {r : Reply n} (hb : b.size ≤ m) (h : Pulled k b r.last) :
    Trails k r (.halt .unreadable b hb : Reply m) := by
  cases r with
  | done g _ => exact ⟨rfl, h⟩
  | halt e g _ => exact .inr ⟨rfl, h⟩

/-- Sequencing: the continuations trail each other from short cursors, and the whole one only
adds events, so a short run that ran out stays behind. -/
theorem Trails.bind {rg : Reply n} {rb : Reply m} {fg : (s : Cursor) → s.size ≤ n → Reply n}
    {fb : (s : Cursor) → s.size ≤ m → Reply m} (h : Trails k rg rb)
    (hf : ∀ g b hg hb, Short k g b → Trails k (fg g hg) (fb b hb))
    (hgrow : ∀ g hg, Grows g (fg g hg).last) : Trails k (rg.bind fg) (rb.bind fb) := by
  cases rg with
  | done g hg =>
    cases rb with
    | done b hb => exact hf g b hg hb h
    | halt e b hb =>
      obtain ⟨rfl, hp⟩ := h
      exact Trails.of_pulled hb (hp.grow (hgrow g hg))
  | halt e g hg =>
    cases rb with
    | done b hb => exact h.elim
    | halt e' b hb => exact h

theorem grows_bind {rg : Reply n} {fg : (s : Cursor) → s.size ≤ n → Reply n}
    (h : Grows g rg.last) (hgrow : ∀ g hg, Grows g (fg g hg).last) : Grows g (rg.bind fg).last := by
  cases rg with
  | done g₁ hg => exact h.trans (hgrow g₁ hg)
  | halt e g₁ hg => exact h

theorem trails_dite {c c' : Prop} [Decidable c] [Decidable c'] (hc : c ↔ c') {t : c → Reply n}
    {e : ¬ c → Reply n} {t' : c' → Reply m} {e' : ¬ c' → Reply m}
    (ht : ∀ h h', Trails k (t h) (t' h')) (he : ∀ h h', Trails k (e h) (e' h')) :
    Trails k (dite c t e) (dite c' t' e') := by
  by_cases h : c
  · rw [dif_pos h, dif_pos (hc.mp h)]; exact ht _ _
  · rw [dif_neg h, dif_neg (mt hc.mpr h)]; exact he _ _

theorem grows_dite {c : Prop} [Decidable c] {t : c → Reply n} {e : ¬ c → Reply n}
    (ht : ∀ h, Grows g (t h).last) (he : ∀ h, Grows g (e h).last) : Grows g (dite c t e).last := by
  by_cases h : c
  · rw [dif_pos h]; exact ht h
  · rw [dif_neg h]; exact he h

theorem Short.finish (h : Short k g b) : Trails k g.finish b.finish := h

theorem Short.stop (h : Short k g b) : Trails k g.stop b.stop := .inl ⟨rfl, h⟩

theorem Short.fail (h : Short k g b) (p : Problem) : Trails k (g.fail p) (b.fail p) :=
  .inl ⟨by rw [h.lookahead], h⟩

/-- The procedure `f` run from `g` only adds events, and run from a cursor short of `g` it
trails the run from `g`. -/
def Online (g : Cursor) (f : (s : Cursor) → Reply s.size) : Prop :=
  Grows g (f g).last ∧ ∀ k b, Short k g b → Trails k (f g) (f b)

/-- Requiring a lookahead of a kind and moving past it. -/
theorem consume_online (g : Cursor) (kind : Kind) : Online g (·.consume kind) := by
  refine ⟨?_, fun k b h => ?_⟩ <;> dsimp only
  · unfold consume
    split
    · split
      · next g₁ ha => exact grows_advance ha
      · exact Grows.refl g
    · exact Grows.refl g
  · unfold consume
    by_cases hk : g.lookahead.kind = kind
    · rw [if_pos hk, if_pos (by rw [h.lookahead]; exact hk)]
      split
      · next g₁ ha =>
        split
        · next b₁ hb =>
          obtain ⟨g₂, hg, h₁⟩ := h.advance_some hb
          rw [ha] at hg
          cases hg
          exact h₁
        · next hb =>
          rcases h.advance_none hb with hg | ⟨g₂, hg, hp⟩
          · rw [ha] at hg; cases hg
          · rw [ha] at hg
            cases hg
            exact ⟨rfl, hp⟩
      · next ha =>
        split
        · next b₁ hb =>
          obtain ⟨g₂, hg, -⟩ := h.advance_some hb
          rw [ha] at hg; cases hg
        · exact h.stop
    · rw [if_neg hk, if_neg (by rw [h.lookahead]; exact hk)]
      exact h.fail _

/-! ### Moving on in both runs -/

theorem Short.advance_none_of (h : Short k g b) (hg : g.advance = none) : b.advance = none := by
  cases hb : b.advance with
  | none => rfl
  | some b₁ =>
    obtain ⟨g₁, hg₁, -⟩ := h.advance_some hb
    rw [hg] at hg₁
    cases hg₁

theorem Short.advance_both {g₁ b₁ : Cursor} (h : Short k g b) (hg : g.advance = some g₁)
    (hb : b.advance = some b₁) : Short k g₁ b₁ := by
  obtain ⟨g₂, hg₂, h₂⟩ := h.advance_some hb
  rw [hg] at hg₂
  cases hg₂
  exact h₂

/-- The short run ran out of tokens where the whole run moved on and then went on to `r`. -/
theorem Short.stop_of_advance {g₁ : Cursor} (h : Short k g b) (hb : b.advance = none)
    (hg : g.advance = some g₁) {r : Reply n} (hr : Grows g₁ r.last) : Trails k r b.stop := by
  rcases h.advance_none hb with hg' | ⟨g₂, hg₂, hp⟩
  · rw [hg] at hg'
    cases hg'
  · rw [hg] at hg₂
    cases hg₂
    exact Trails.of_pulled _ (hp.grow hr)

/-- Taking the lookahead in both runs and going on with `fg` and `fb`: the four outcomes of the
two advances, of which the short run may lose only the last token's pull. -/
theorem Short.trails_advance (h : Short k g b)
    {fg : (g₁ : Cursor) → g.advance = some g₁ → Reply g.size}
    {fb : (b₁ : Cursor) → b.advance = some b₁ → Reply b.size}
    (hsome : ∀ g₁ b₁ hg hb, Short k g₁ b₁ → Trails k (fg g₁ hg) (fb b₁ hb))
    (hgrow : ∀ g₁ hg, Grows g₁ (fg g₁ hg).last) :
    Trails k (match hg : g.advance with | none => g.stop | some g₁ => fg g₁ hg)
      (match hb : b.advance with | none => b.stop | some b₁ => fb b₁ hb) := by
  split
  · next ha =>
    split
    · exact h.stop
    · next b₁ hb => rw [h.advance_none_of ha] at hb; cases hb
  · next g₁ ha =>
    split
    · next hb => exact h.stop_of_advance hb ha (hgrow g₁ ha)
    · next b₁ hb => exact hsome g₁ b₁ ha hb (h.advance_both ha hb)

theorem grows_advance_match {fg : (g₁ : Cursor) → g.advance = some g₁ → Reply g.size}
    (hgrow : ∀ g₁ hg, Grows g₁ (fg g₁ hg).last) :
    Grows g (match hg : g.advance with | none => g.stop | some g₁ => fg g₁ hg).last := by
  split
  · exact Grows.refl g
  · next g₁ ha => exact (grows_advance ha).trans (hgrow g₁ ha)

/-- Going on with a procedure that is online from every smaller cursor. -/
theorem Trails.bind_online {rg : Reply n} {rb : Reply m} (h : Trails k rg rb)
    {f : (s : Cursor) → Reply s.size} (hf : ∀ g : Cursor, g.size ≤ n → Online g f) :
    Trails k (rg.bind fun s hs => (f s).widen hs) (rb.bind fun s hs => (f s).widen hs) :=
  h.bind (fun g b hg _ hs => by simpa using (hf g hg).2 k b hs) fun g hg => by
    simpa using (hf g hg).1

theorem grows_bind_online {rg : Reply n} {f : (s : Cursor) → Reply s.size} (h : Grows g rg.last)
    (hf : ∀ g : Cursor, g.size ≤ n → Online g f) :
    Grows g (rg.bind fun s hs => (f s).widen hs).last :=
  grows_bind h fun g' hg => by simpa using (hf g' hg).1

/-- Leaving a procedure after a normal end. -/
theorem Trails.bind_leave {rg : Reply n} {rb : Reply m} (h : Trails k rg rb) (p : Procedure) :
    Trails k (rg.bind fun s hs => .done (s.note (.leave p)) hs)
      (rb.bind fun s hs => .done (s.note (.leave p)) hs) :=
  h.bind (fun _ _ _ _ hs => hs.note _ (by simp)) fun g _ => (Grows.refl g).note _

theorem grows_bind_leave {rg : Reply n} (h : Grows g rg.last) (p : Procedure) :
    Grows g (rg.bind fun s hs => .done (s.note (.leave p)) hs).last :=
  grows_bind h fun g' _ => (Grows.refl g').note _

/-- The last call of a procedure's body, then leaving the procedure. -/
theorem Online.trails_leave {f : (s : Cursor) → Reply s.size} (hf : Online g f) (hs : Short k g b)
    (hg : g.size ≤ n) (hb : b.size ≤ m) (p : Procedure) :
    Trails k ((((f g).widen hg).bind fun s hs => .done (s.note (.leave p)) hs : Reply n))
      ((((f b).widen hb).bind fun s hs => .done (s.note (.leave p)) hs : Reply m)) :=
  Trails.bind_leave (by simpa using hf.2 k b hs) p

theorem Online.grows_leave {f : (s : Cursor) → Reply s.size} (hf : Online g f) (hg : g.size ≤ n)
    (p : Procedure) :
    Grows g ((((f g).widen hg).bind fun s hs => .done (s.note (.leave p)) hs : Reply n)).last :=
  grows_bind_leave (by simpa using hf.1) p

/-- A call, then the last call of a procedure's body, then leaving the procedure. -/
theorem Online.trails_seq_leave {f₁ f₂ : (s : Cursor) → Reply s.size} (h₁ : Online g f₁)
    (h₂ : ∀ g, Online g f₂) (hs : Short k g b) (p : Procedure) :
    Trails k ((f₁ g).bind fun s hs => ((f₂ s).widen hs).bind fun s' hs' =>
        .done (s'.note (.leave p)) hs')
      ((f₁ b).bind fun s hs => ((f₂ s).widen hs).bind fun s' hs' =>
        .done (s'.note (.leave p)) hs') :=
  (h₁.2 k b hs).bind (fun g₁ _ hg hb h => (h₂ g₁).trails_leave h hg hb p)
    fun g₁ hg => (h₂ g₁).grows_leave hg p

theorem Online.grows_seq_leave {f₁ f₂ : (s : Cursor) → Reply s.size} (h₁ : Online g f₁)
    (h₂ : ∀ g, Online g f₂) (p : Procedure) :
    Grows g ((f₁ g).bind fun s hs => ((f₂ s).widen hs).bind fun s' hs' =>
        .done (s'.note (.leave p)) hs').last :=
  grows_bind h₁.1 fun g₁ hg => (h₂ g₁).grows_leave hg p

/-! ### Expressions -/

theorem exp_online (g : Cursor) (ht : Online (g.note (.enter .exp)) term)
    (hm : ∀ g₁ : Cursor, g₁.size ≤ (g.note (.enter .exp)).size → Online g₁ moreTerms) :
    Online g exp := by
  constructor
  · rw [Cursor.exp]
    exact grows_bind_leave (grows_bind_online (((Grows.refl g).note _).trans ht.1) hm) _
  · intro k b h
    rw [Cursor.exp, Cursor.exp]
    exact (Trails.bind_online (ht.2 k _ (h.note _ (by simp))) hm).bind_leave _

theorem moreTerms_online (g : Cursor)
    (ht : g.lookahead.kind.isAddOp → ∀ g₁, g.advance = some g₁ → Online g₁ term)
    (hm : g.lookahead.kind.isAddOp → ∀ g₁, g.advance = some g₁ →
      ∀ g₂ : Cursor, g₂.size ≤ g₁.size → Online g₂ moreTerms) :
    Online g moreTerms := by
  have hgrow : ∀ (hk : g.lookahead.kind.isAddOp) g₁ (ha : g.advance = some g₁),
      Grows g₁ (g₁.term.bind fun s₂ h₂ => s₂.moreTerms.widen h₂).last := fun hk g₁ ha =>
    grows_bind_online (ht hk g₁ ha).1 (hm hk g₁ ha)
  constructor
  · rw [Cursor.moreTerms]
    refine grows_dite (fun hk => grows_advance_match fun g₁ ha => ?_) fun _ => Grows.refl g
    simpa using hgrow hk g₁ ha
  · intro k b h
    rw [Cursor.moreTerms, Cursor.moreTerms]
    refine trails_dite (by rw [h.lookahead]) (fun hk _ => ?_) fun _ _ => h.finish
    refine h.trails_advance (fun g₁ b₁ ha _ hs => ?_) fun g₁ ha => by simpa using hgrow hk g₁ ha
    simpa using Trails.bind_online ((ht hk g₁ ha).2 k b₁ hs) (hm hk g₁ ha)

theorem term_online (g : Cursor) (hf : Online (g.note (.enter .term)) factor)
    (hm : ∀ g₁ : Cursor, g₁.size ≤ (g.note (.enter .term)).size → Online g₁ moreFactors) :
    Online g term := by
  constructor
  · rw [Cursor.term]
    exact grows_bind_leave (grows_bind_online (((Grows.refl g).note _).trans hf.1) hm) _
  · intro k b h
    rw [Cursor.term, Cursor.term]
    exact (Trails.bind_online (hf.2 k _ (h.note _ (by simp))) hm).bind_leave _

theorem moreFactors_online (g : Cursor)
    (hf : g.lookahead.kind.isMulOp → ∀ g₁, g.advance = some g₁ → Online g₁ factor)
    (hm : g.lookahead.kind.isMulOp → ∀ g₁, g.advance = some g₁ →
      ∀ g₂ : Cursor, g₂.size ≤ g₁.size → Online g₂ moreFactors) :
    Online g moreFactors := by
  have hgrow : ∀ (hk : g.lookahead.kind.isMulOp) g₁ (ha : g.advance = some g₁),
      Grows g₁ (g₁.factor.bind fun s₂ h₂ => s₂.moreFactors.widen h₂).last := fun hk g₁ ha =>
    grows_bind_online (hf hk g₁ ha).1 (hm hk g₁ ha)
  constructor
  · rw [Cursor.moreFactors]
    refine grows_dite (fun hk => grows_advance_match fun g₁ ha => ?_) fun _ => Grows.refl g
    simpa using hgrow hk g₁ ha
  · intro k b h
    rw [Cursor.moreFactors, Cursor.moreFactors]
    refine trails_dite (by rw [h.lookahead]) (fun hk _ => ?_) fun _ _ => h.finish
    refine h.trails_advance (fun g₁ b₁ ha _ hs => ?_) fun g₁ ha => by simpa using hgrow hk g₁ ha
    simpa using Trails.bind_online ((hf hk g₁ ha).2 k b₁ hs) (hm hk g₁ ha)

/-- A parenthesised expression: the expression, the closing parenthesis, and leaving. -/
theorem factor_online (g : Cursor)
    (he : (g.note (.enter .factor)).lookahead.kind = .lparen →
      ∀ g₁, (g.note (.enter .factor)).advance = some g₁ → Online g₁ exp) :
    Online g factor := by
  have hr := fun g₁ => consume_online g₁ .rparen
  constructor
  · rw [Cursor.factor]
    refine ((Grows.refl g).note (.enter .factor)).trans ?_
    split
    · exact grows_advance_match fun g₁ _ => (Grows.refl g₁).note _
    · refine grows_dite (fun hk => grows_advance_match fun g₁ ha => ?_) fun _ => Grows.refl _
      simpa using (he hk g₁ ha).grows_seq_leave hr .factor
  · intro k b h
    have h₀ := h.note (.enter .factor) (by simp)
    rw [Cursor.factor, Cursor.factor]
    by_cases ho : (g.note (.enter .factor)).lookahead.kind.isOperand
    · rw [if_pos ho, if_pos (h₀.lookahead ▸ ho)]
      exact h₀.trails_advance (fun _ _ _ _ h₁ => h₁.note _ (by simp))
        fun g₁ _ => (Grows.refl g₁).note _
    · rw [if_neg ho, if_neg (h₀.lookahead ▸ ho)]
      refine trails_dite (by rw [h₀.lookahead]) (fun hk _ => ?_) fun _ _ => h₀.fail _
      refine h₀.trails_advance (fun g₁ b₁ ha _ h₁ => ?_) fun g₁ ha => ?_
      · simpa using (he hk g₁ ha).trails_seq_leave hr h₁ .factor
      · simpa using (he hk g₁ ha).grows_seq_leave hr .factor

/-- **Expressions read online**, by the mutual induction of their procedures: each case passes its
hypotheses on to the step lemma of its procedure. -/
theorem expression_online :
    (∀ g, Online g exp) ∧ (∀ g, Online g moreTerms) ∧ (∀ g, Online g term) ∧
      (∀ g, Online g moreFactors) ∧ (∀ g, Online g factor) := by
  apply Cursor.exp.mutual_induct (fun g => Online g exp) (fun g => Online g moreTerms)
    (fun g => Online g term) (fun g => Online g moreFactors) (fun g => Online g factor)
  case case1 =>
    intro g; dsimp only; intro ht hm
    exact exp_online g ht hm
  case case2 =>
    intro g _ ha
    exact moreTerms_online g (fun _ g₁ ha₁ => by cases ha.symm.trans ha₁)
      fun _ g₁ ha₁ => by cases ha.symm.trans ha₁
  case case3 =>
    intro g _ g₁ ha _ ht hm
    exact moreTerms_online g (fun _ g₂ ha₂ => by cases ha.symm.trans ha₂; exact ht)
      fun _ g₂ ha₂ => by cases ha.symm.trans ha₂; exact hm
  case case4 =>
    intro g hk
    exact moreTerms_online g (fun h => absurd h hk) fun h => absurd h hk
  case case5 =>
    intro g; dsimp only; intro hf hm
    exact term_online g hf hm
  case case6 =>
    intro g _ ha
    exact moreFactors_online g (fun _ g₁ ha₁ => by cases ha.symm.trans ha₁)
      fun _ g₁ ha₁ => by cases ha.symm.trans ha₁
  case case7 =>
    intro g _ g₁ ha _ hf hm
    exact moreFactors_online g (fun _ g₂ ha₂ => by cases ha.symm.trans ha₂; exact hf)
      fun _ g₂ ha₂ => by cases ha.symm.trans ha₂; exact hm
  case case8 =>
    intro g hk
    exact moreFactors_online g (fun h => absurd h hk) fun h => absurd h hk
  case case9 =>
    intro g; dsimp only; intro ho _
    exact factor_online g fun hk => by rw [hk] at ho; cases ho
  case case10 =>
    intro g; dsimp only; intro ho _ _
    exact factor_online g fun hk => by rw [hk] at ho; cases ho
  case case11 =>
    intro g; dsimp only; intro _ _ ha
    exact factor_online g fun _ g₁ ha₁ => by cases ha.symm.trans ha₁
  case case12 =>
    intro g; dsimp only; intro _ _ g₁ ha _ he
    exact factor_online g fun _ g₂ ha₂ => by cases ha.symm.trans ha₂; exact he
  case case13 =>
    intro g; dsimp only; intro _ hk
    exact factor_online g fun h => absurd h hk

/-! ### Statements -/

/-- Skipping a token that ends no statement, and skipping on from the next one. -/
theorem skipToEnd_skip_online (g : Cursor) (hk : ¬ g.lookahead.kind.endsStatement)
    (ih : ∀ g₁, (g.note (.skip g.lookahead)).advance = some g₁ → Online g₁ skipToEnd) :
    Online g skipToEnd := by
  refine ⟨?_, fun k b h => ?_⟩
  · rw [Cursor.skipToEnd, dif_neg hk]
    exact ((Grows.refl g).note _).trans (grows_advance_match fun g₁ ha => by simpa using (ih g₁ ha).1)
  · have h₁ : Short k (g.note (.skip g.lookahead)) (b.note (.skip b.lookahead)) := by
      rw [h.lookahead]; exact h.note _ (by simp)
    rw [Cursor.skipToEnd, Cursor.skipToEnd, dif_neg hk, dif_neg (h.lookahead ▸ hk)]
    exact h₁.trails_advance (fun g₁ b₁ ha _ hs => by simpa using (ih g₁ ha).2 k b₁ hs)
      fun g₁ ha => by simpa using (ih g₁ ha).1

/-- Recovery reads online: both runs skip the same tokens, up to the end of the statement or of
the short run's tokens. -/
theorem skipToEnd_online (g : Cursor) : Online g skipToEnd := by
  induction g using Cursor.skipToEnd.induct with
  | case1 g hk =>
    refine ⟨by rw [Cursor.skipToEnd, dif_pos hk]; exact Grows.refl g, fun k b h => ?_⟩
    rw [Cursor.skipToEnd, Cursor.skipToEnd, dif_pos hk, dif_pos (h.lookahead ▸ hk)]
    exact h.finish
  | case2 g hk _ ha =>
    exact skipToEnd_skip_online g hk fun g₁ ha₁ => by cases ha.symm.trans ha₁
  | case3 g hk _ g₁ ha _ ih =>
    refine skipToEnd_skip_online g hk fun g₂ ha₂ => ?_
    cases ha.symm.trans ha₂
    exact ih

theorem declaration_online (g : Cursor) : Online g declaration := by
  have h₀ := consume_online (g.note (.enter .declaration)) .type
  have hi := fun g₁ => consume_online g₁ .ident
  refine ⟨?_, fun k b h => ?_⟩
  · rw [Cursor.declaration]
    exact ((Grows.refl g).note _).trans (h₀.grows_seq_leave hi _)
  · rw [Cursor.declaration, Cursor.declaration]
    exact h₀.trails_seq_leave hi (h.note _ (by simp)) _

theorem assignment_online (g : Cursor) : Online g assignment := by
  have hexp := expression_online.1
  refine ⟨?_, fun k b h => ?_⟩
  · rw [Cursor.assignment]
    refine ((Grows.refl g).note (.enter .assignment)).trans ?_
    refine grows_dite (fun hk => grows_advance_match fun g₁ ha => ?_) fun _ => Grows.refl _
    simpa using (consume_online g₁ .assign).grows_seq_leave hexp .assignment
  · have h₀ := h.note (.enter .assignment) (by simp)
    rw [Cursor.assignment, Cursor.assignment]
    refine trails_dite (by rw [h₀.lookahead]) (fun hk _ => ?_) fun _ _ => h₀.fail _
    refine h₀.trails_advance (fun g₁ b₁ ha _ h₁ => ?_) fun g₁ ha => ?_
    · simpa using (consume_online g₁ .assign).trails_seq_leave hexp h₁ .assignment
    · simpa using (consume_online g₁ .assign).grows_seq_leave hexp .assignment

theorem block_online (g : Cursor)
    (hl : (g.note (.enter .block)).lookahead.kind = .lbrace →
      ∀ g₁, (g.note (.enter .block)).advance = some g₁ → Online g₁ stmtList) :
    Online g block := by
  have hr := fun g₁ => consume_online g₁ .rbrace
  constructor
  · rw [Cursor.block]
    refine ((Grows.refl g).note (.enter .block)).trans ?_
    refine grows_dite (fun hk => grows_advance_match fun g₁ ha => ?_) fun _ => Grows.refl _
    simpa using (hl hk g₁ ha).grows_seq_leave hr .block
  · intro k b h
    have h₀ := h.note (.enter .block) (by simp)
    rw [Cursor.block, Cursor.block]
    refine trails_dite (by rw [h₀.lookahead]) (fun hk _ => ?_) fun _ _ => h₀.fail _
    refine h₀.trails_advance (fun g₁ b₁ ha _ h₁ => ?_) fun g₁ ha => ?_
    · simpa using (hl hk g₁ ha).trails_seq_leave hr h₁ .block
    · simpa using (hl hk g₁ ha).grows_seq_leave hr .block

theorem stmtList_online (g : Cursor) (hs : Online (g.note (.enter .stmtList)) stmt)
    (hm : ∀ g₁ : Cursor, g₁.size ≤ (g.note (.enter .stmtList)).size → Online g₁ moreStmts) :
    Online g stmtList := by
  constructor
  · rw [Cursor.stmtList]
    exact grows_bind_leave (grows_bind_online (((Grows.refl g).note _).trans hs.1) hm) _
  · intro k b h
    rw [Cursor.stmtList, Cursor.stmtList]
    exact (Trails.bind_online (hs.2 k _ (h.note _ (by simp))) hm).bind_leave _

theorem moreStmts_online (g : Cursor)
    (hs : g.lookahead.kind = .comma → ∀ g₁, g.advance = some g₁ → Online g₁ stmt)
    (hm : g.lookahead.kind = .comma → ∀ g₁, g.advance = some g₁ →
      ∀ g₂ : Cursor, g₂.size ≤ g₁.size → Online g₂ moreStmts) :
    Online g moreStmts := by
  have hgrow : ∀ (hk : g.lookahead.kind = .comma) g₁ (ha : g.advance = some g₁),
      Grows g₁ (g₁.stmt.bind fun s₂ h₂ => s₂.moreStmts.widen h₂).last := fun hk g₁ ha =>
    grows_bind_online (hs hk g₁ ha).1 (hm hk g₁ ha)
  constructor
  · rw [Cursor.moreStmts]
    refine grows_dite (fun hk => grows_advance_match fun g₁ ha => ?_) fun _ => Grows.refl g
    simpa using hgrow hk g₁ ha
  · intro k b h
    rw [Cursor.moreStmts, Cursor.moreStmts]
    refine trails_dite (by rw [h.lookahead]) (fun hk _ => ?_) fun _ _ => h.finish
    refine h.trails_advance (fun g₁ b₁ ha _ h₁ => ?_) fun g₁ ha => by simpa using hgrow hk g₁ ha
    simpa using Trails.bind_online ((hs hk g₁ ha).2 k b₁ h₁) (hm hk g₁ ha)

/-- The end of a statement from both runs: a normal end leaves it, a fault is recorded and
recovered from, and a failed read stops it. -/
theorem trails_stmt_end {g b : Cursor} {cg : Reply g.size} {cb : Reply b.size} : Trails k cg cb →
    Trails k
      (match cg with
        | .done s₁ h₁ => .done (s₁.note (.leave .stmt)) h₁
        | .halt .unreadable s₁ h₁ => .halt .unreadable s₁ h₁
        | .halt (.fault e) s₁ h₁ =>
          ((s₁.note (.report e)).skipToEnd.widen h₁).bind fun s₂ h₂ =>
            .done (s₂.note (.leave .stmt)) h₂ : Reply g.size)
      (match cb with
        | .done s₁ h₁ => .done (s₁.note (.leave .stmt)) h₁
        | .halt .unreadable s₁ h₁ => .halt .unreadable s₁ h₁
        | .halt (.fault e) s₁ h₁ =>
          ((s₁.note (.report e)).skipToEnd.widen h₁).bind fun s₂ h₂ =>
            .done (s₂.note (.leave .stmt)) h₂ : Reply b.size) := by
  intro h
  cases cg with
  | done g₁ hg =>
    cases cb with
    | done b₁ hb => exact Short.note h _ (by simp)
    | halt eb b₁ hb =>
      obtain ⟨rfl, hp⟩ := h
      exact ⟨rfl, hp.grow ((Grows.refl g₁).note _)⟩
  | halt eg g₁ hg =>
    cases cb with
    | done b₁ hb => exact h.elim
    | halt eb b₁ hb =>
      cases eg with
      | unreadable =>
        obtain rfl : eb = .unreadable := h.elim (·.1) (·.1)
        exact h
      | fault e =>
        dsimp only
        rcases h with ⟨rfl, hs⟩ | ⟨rfl, hp⟩
        · exact (skipToEnd_online _).trails_leave (hs.note _ (by simp)) hg hb _
        · exact Trails.of_pulled hb
            (hp.grow (((Grows.refl g₁).note _).trans
              ((skipToEnd_online (g₁.note (.report e))).grows_leave hg _)))

theorem grows_stmt_end {s : Cursor} {cg : Reply s.size} : Grows g cg.last →
    Grows g (match cg with
        | .done s₁ h₁ => .done (s₁.note (.leave .stmt)) h₁
        | .halt .unreadable s₁ h₁ => .halt .unreadable s₁ h₁
        | .halt (.fault e) s₁ h₁ =>
          ((s₁.note (.report e)).skipToEnd.widen h₁).bind fun s₂ h₂ =>
            .done (s₂.note (.leave .stmt)) h₂ : Reply s.size).last := by
  intro h
  cases cg with
  | done g₁ hg => exact h.note _
  | halt eg g₁ hg =>
    cases eg with
    | unreadable => exact h
    | fault e =>
      dsimp only
      exact (h.note _).trans ((skipToEnd_online (g₁.note (.report e))).grows_leave hg _)

/-- The body of a statement, chosen by its first token, reads online. -/
theorem body_online (g : Cursor) (hb : Online g block) :
    Online g fun s => (match s.lookahead.kind with
      | .type => s.declaration
      | .ident => s.assignment
      | .lbrace => s.block
      | _ => s.fail .statementStart : Reply s.size) := by
  constructor
  · dsimp only
    split
    · exact (declaration_online g).1
    · exact (assignment_online g).1
    · exact hb.1
    · exact Grows.refl g
  · intro k b h
    dsimp only
    rw [h.lookahead]
    split
    · exact (declaration_online g).2 k b h
    · exact (assignment_online g).2 k b h
    · exact hb.2 k b h
    · exact h.fail _

/-- The test after a statement's body: the next token must end the statement. -/
theorem trails_checked {rg : Reply n} {rb : Reply m} (h : Trails k rg rb) :
    Trails k
      (rg.bind fun s₁ h₁ =>
        if s₁.lookahead.kind.endsStatement then Reply.done s₁ h₁
        else Reply.halt (.fault ⟨.statementEnd, s₁.lookahead⟩) s₁ h₁)
      (rb.bind fun s₁ h₁ =>
        if s₁.lookahead.kind.endsStatement then Reply.done s₁ h₁
        else Reply.halt (.fault ⟨.statementEnd, s₁.lookahead⟩) s₁ h₁) := by
  refine h.bind (fun g₁ b₁ _ _ hs => ?_) fun g₁ _ => ?_
  · by_cases he : g₁.lookahead.kind.endsStatement
    · rw [if_pos he, if_pos (hs.lookahead ▸ he)]
      exact hs
    · rw [if_neg he, if_neg (hs.lookahead ▸ he)]
      exact .inl ⟨by rw [hs.lookahead], hs⟩
  · split <;> exact Grows.refl g₁

theorem grows_checked {rg : Reply n} (h : Grows g rg.last) :
    Grows g (rg.bind fun s₁ h₁ =>
        if s₁.lookahead.kind.endsStatement then Reply.done s₁ h₁
        else Reply.halt (.fault ⟨.statementEnd, s₁.lookahead⟩) s₁ h₁).last :=
  grows_bind h fun g₁ _ => by split <;> exact Grows.refl g₁

theorem stmt_online (g : Cursor) (hb : Online (g.note (.enter .stmt)) block) :
    Online g stmt := by
  have hbody := body_online _ hb
  constructor
  · have hg := ((Grows.refl g).note _).trans hbody.1
    dsimp only at hg
    rw [Cursor.stmt]
    exact grows_stmt_end (grows_checked hg)
  · intro k b h
    have hs := hbody.2 k _ (h.note _ (by simp))
    dsimp only at hs
    rw [Cursor.stmt, Cursor.stmt]
    exact trails_stmt_end (trails_checked hs)

/-- **Statements read online**, by the mutual induction of their procedures. -/
theorem statement_online :
    (∀ g, Online g block) ∧ (∀ g, Online g stmtList) ∧ (∀ g, Online g moreStmts) ∧
      (∀ g, Online g stmt) := by
  apply Cursor.block.mutual_induct (fun g => Online g block) (fun g => Online g stmtList)
    (fun g => Online g moreStmts) (fun g => Online g stmt)
  case case1 =>
    intro g; dsimp only; intro _ ha
    exact block_online g fun _ g₁ ha₁ => by cases ha.symm.trans ha₁
  case case2 =>
    intro g; dsimp only; intro _ g₁ ha _ ih
    exact block_online g fun _ g₂ ha₂ => by cases ha.symm.trans ha₂; exact ih
  case case3 =>
    intro g; dsimp only; intro hk
    exact block_online g fun h => absurd h hk
  case case4 =>
    intro g; dsimp only; intro hs hm
    exact stmtList_online g hs hm
  case case5 =>
    intro g _ ha
    exact moreStmts_online g (fun _ g₁ ha₁ => by cases ha.symm.trans ha₁)
      fun _ g₁ ha₁ => by cases ha.symm.trans ha₁
  case case6 =>
    intro g _ g₁ ha _ hs hm
    exact moreStmts_online g (fun _ g₂ ha₂ => by cases ha.symm.trans ha₂; exact hs)
      fun _ g₂ ha₂ => by cases ha.symm.trans ha₂; exact hm
  case case7 =>
    intro g hk
    exact moreStmts_online g (fun h => absurd h hk) fun h => absurd h hk
  case case8 =>
    intro g; dsimp only; intro _ _ _ ih
    exact stmt_online g ih
  case case9 =>
    intro g; dsimp only; intro _ _ _ ih
    exact stmt_online g ih
  case case10 =>
    intro g; dsimp only; intro _ _ _ _ ih
    exact stmt_online g ih

end Cursor

/-! ### Whole checks -/

namespace Verdict

/-- How the check of the first `k` tokens ends against the check of all of them: the same way
with the same lookahead and events, or for want of a token, all `k` pulled, where the whole check
pulled one more after the same events. -/
def Trails (k : Nat) : Verdict → Verdict → Prop
  | .finished g, .finished b =>
    b.lookahead = g.lookahead ∧ b.log = g.log ∧ (Verdict.finished b).pulls ≤ k
  | .finished g, .unreadable L =>
    (Verdict.unreadable L).pulls = k ∧ L.toList ++ [.pull] <+: g.log.toList
  | .unreadable L, .unreadable L' =>
    L' = L ∨ ((Verdict.unreadable L').pulls = k ∧ L'.toList ++ [.pull] <+: L.toList)
  | .unreadable _, .finished _ => False

end Verdict

namespace Cursor

variable {k : Nat}

/-- The short run pulled at most its `k` tokens, also after leaving the program. -/
theorem Short.pulls_leave {g b : Cursor} (h : Short k g b) :
    (Verdict.finished (b.note (.leave .program))).pulls ≤ k := by
  show (b.note _).pulls ≤ k
  have := h.count
  rw [pulls_note _ (by simp)]
  omega

/-- The end of the program procedure from both runs. -/
theorem trails_program_end {g b : Cursor} {rg : Reply g.size} {rb : Reply b.size} :
    Trails k rg rb →
    Verdict.Trails k
      (match rg with
        | .done s₁ _ => .finished (s₁.note (.leave .program))
        | .halt (.fault e) s₁ _ => .finished ((s₁.note (.report e)).note (.leave .program))
        | .halt .unreadable s₁ _ => .unreadable s₁.log)
      (match rb with
        | .done s₁ _ => .finished (s₁.note (.leave .program))
        | .halt (.fault e) s₁ _ => .finished ((s₁.note (.report e)).note (.leave .program))
        | .halt .unreadable s₁ _ => .unreadable s₁.log) := by
  intro h
  cases rg with
  | done g₁ hg =>
    cases rb with
    | done b₁ hb =>
      exact ⟨h.lookahead, by simp [Cursor.note, h.log], h.pulls_leave⟩
    | halt eb b₁ hb =>
      obtain ⟨rfl, hp⟩ := h
      exact ⟨hp.1, hp.2.trans ((Grows.refl g₁).note _)⟩
  | halt eg g₁ hg =>
    cases rb with
    | done b₁ hb => exact h.elim
    | halt eb b₁ hb =>
      cases eg with
      | unreadable =>
        rcases h with ⟨rfl, hs⟩ | ⟨rfl, hp⟩
        · exact .inl hs.log
        · exact .inr hp
      | fault e =>
        rcases h with ⟨rfl, hs⟩ | ⟨rfl, hp⟩
        · exact ⟨hs.lookahead, by simp [Cursor.note, hs.log], (hs.note _ (by simp)).pulls_leave⟩
        · exact ⟨hp.1, hp.2.trans (((Grows.refl g₁).note _).note _)⟩

theorem grows_program_end {g s : Cursor} {rg : Reply s.size} : Grows g rg.last →
    g.log.toList <+: (match rg with
        | .done s₁ _ => .finished (s₁.note (.leave .program))
        | .halt (.fault e) s₁ _ => .finished ((s₁.note (.report e)).note (.leave .program))
        | .halt .unreadable s₁ _ => .unreadable s₁.log : Verdict).log.toList := by
  intro h
  cases rg with
  | done g₁ _ => exact h.note _
  | halt eg g₁ _ =>
    cases eg with
    | unreadable => exact h
    | fault e => exact (h.note _).note _

/-- The program procedure only adds to the events. -/
theorem log_prefix_program (g : Cursor) : g.log.toList <+: g.program.log.toList := by
  rw [Cursor.program]
  exact grows_program_end (grows_bind_online (f := fun s => s.consume .eof)
    (((Grows.refl g).note _).trans (statement_online.1 _).1) fun g' _ => consume_online g' .eof)

/-- The program procedure from a short cursor trails it from the whole one. -/
theorem Short.program {g b : Cursor} (h : Short k g b) : Verdict.Trails k g.program b.program := by
  rw [Cursor.program, Cursor.program]
  exact trails_program_end (Trails.bind_online (f := fun s => s.consume .eof)
    ((statement_online.1 _).2 k _ (h.note _ (by simp))) fun g' _ => consume_online g' .eof)

end Cursor

/-- **The check reads its tokens online.**  Checking the first tokens `p` of an input, none of
them the end token, ends as checking the whole input does, with the same events; or it stops for
want of a token after pulling all of `p`, where the whole check pulled one more after the same
events. -/
theorem check_online {p u : List Token} (hp : ∀ t ∈ p, t.kind ≠ .eof) :
    Verdict.Trails p.length (check (p ++ u)) (check p) := by
  cases p with
  | nil =>
    cases u with
    | nil => exact .inl rfl
    | cons t rest =>
      -- the whole check pulled its first token, the empty one nothing
      have hlog := Cursor.log_prefix_program ⟨t, rest, #[.pull]⟩
      simp only [List.nil_append, check] at hlog ⊢
      revert hlog
      cases (Cursor.program ⟨t, rest, #[.pull]⟩) with
      | finished g => exact fun hlog => ⟨rfl, hlog⟩
      | unreadable L => exact fun hlog => .inr ⟨rfl, hlog⟩
  | cons t rest =>
    have h : Cursor.Short (rest.length + 1) ⟨t, rest ++ u, #[.pull]⟩ ⟨t, rest, #[.pull]⟩ :=
      { lookahead := rfl
        log := rfl
        ahead := List.prefix_append _ _
        no_eof := hp
        count := by simp [Cursor.pulls]; omega }
    exact h.program

end BlockSyntax
